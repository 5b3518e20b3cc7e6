import Graftcode.Prog
import Graftcode.Served
/-!
# RabbitMqServer — the consumer of the RabbitMQ gateway

`RabbitMqServer::start` of `RabbitMqServer.cpp`.  AMQP-CPP calls back while it parses, so a call of `connection.parse` is
asked again and again: each answer is the next callback to run, or what the call returns.  A callback that throws leaves
`parse` with it.  Logging, sleeping and the looks at the flag that decide only about these leave no event.
-/
namespace Graftcode
namespace RabbitMq

open Prog (emit call ofExcept attempt iterate Keeps)

abbrev Socket := Int

def kInvalidSocket : Socket := -1

structure Message where
  body : Bytes
  replyTo : Option Text
  correlationID : Option Text

structure Envelope where
  body : Bytes
  contentType : Text
  correlationID : Option Text
  replyTo : Option Text := none

inductive WaitStatus where
  | readable
  | timeout
  | error (errno : Text)

/-- What `recv` returned: bytes, the end of the stream, or an error. -/
inductive Received where
  | bytes (chunk : Bytes)
  | closed
  | wouldBlock
  | error (errno : Text)

/-- A callback of the connection, the channel or the consumer. -/
inductive Callback where
  | received (message : Message) (deliveryTag : Nat)
  | ready
  | closed
  | consuming (consumerTag : Text)
  | connectionError (message : Option Text)
  | channelError (message : Option Text)
  | consumerError (message : Option Text)

/-- What `connection.parse` does next. -/
inductive Parsing where
  | calls (callback : Callback)
  | returns (parsed : Nat)
  | throws (e : Exn)

inductive Event where
  | stopRequested (stop : Bool)
  | connect (socket : Except Exn (Option Socket))
  | setActiveSocket (socket : Socket)
  | clearActiveSocket (socket : Socket)
  | closeSocket (socket : Socket)
  | openChannel (result : Except Exn Unit)
  | waitForSocketReadable (socket : Socket) (status : WaitStatus)
  | recv (socket : Socket) (received : Received)
  | parse (pending : Bytes) (next : Parsing)
  | failConnection (result : Except Exn Unit)
  | currentProcessMessage (configured : Bool)
  | processMessage (payload : Bytes) (writes : List (Option Bytes)) (result : Except Exn Bool)
  | publish (routingKey : Text) (envelope : Envelope) (result : Except Exn Bool)
  | ack (deliveryTag : Nat) (result : Except Exn Bool)
  | reject (deliveryTag : Nat) (requeue : Bool) (result : Except Exn Bool)

/-- Caught by `catch (const std::exception&)`. -/
def isStd : Exn → Bool
  | .std _   => true
  | .unknown => false

def processMessage (payload : Bytes) : Prog Exn Event (Bool × Bytes) :=
  emit (fun r : List (Option Bytes) × Except Exn Bool => Event.processMessage payload r.1 r.2) >>= fun r =>
    ofExcept (r.2.map fun processed => (processed, responseOf r.1))

def throwText (text : Text) : Prog Exn Event Unit := Prog.throw (.std text)

/-- The place a reply goes to; an empty one counts as none. -/
def replyToOf (message : Message) : Option Text := message.replyTo.filter (!·.isEmpty)

def replyEnvelope (message : Message) (response : Bytes) : Envelope where
  body := response
  contentType := "application/octet-stream".toList
  correlationID := message.correlationID

def publishFailed (replyTo : Text) : Text :=
  "RabbitMQ consumer: failed to publish response to reply_to queue: ".toList ++ replyTo

def publishResponseIfRequested (message : Message) (response : Bytes) : Prog Exn Event Bool :=
  match replyToOf message with
  | none         => pure true
  | some replyTo => do
    let published ← call (Event.publish replyTo (replyEnvelope message response))
    if !published then throwText (publishFailed replyTo)
    pure true

/-- `channel.ack`; what it returns is not looked at. -/
def ack (deliveryTag : Nat) : Prog Exn Event Unit := do
  let _ ← call (Event.ack deliveryTag)
  pure ()

def reject (deliveryTag : Nat) (requeue : Bool) : Prog Exn Event Unit := do
  let _ ← call (Event.reject deliveryTag requeue)
  pure ()

def processingFailed : Exn → Exn
  | .std what => .std ("RabbitMQ consumer: processing failed: ".toList ++ cString what)
  | .unknown  => .std "RabbitMQ consumer: processing failed with unknown error".toList

/-- The `try` of `onReceived`; its handlers throw on, so the `reject` after them is never reached. -/
def processDelivery (message : Message) (deliveryTag : Nat) : Prog Exn Event Unit :=
  (do
    let configured ← emit Event.currentProcessMessage
    if !configured then throwText "RabbitMQ consumer: processMessage callback is not configured".toList
    let (processed, response) ← processMessage message.body
    if !processed then throwText "RabbitMQ consumer: processMessage callback returned failure".toList
    let published ← publishResponseIfRequested message response
    if !published then reject deliveryTag true else ack deliveryTag).tryCatch fun e => Prog.throw (processingFailed e)

def onReceived (message : Message) (deliveryTag : Nat) : Prog Exn Event Unit :=
  if message.body.isEmpty then ack deliveryTag else processDelivery message deliveryTag

def errorText (text : String) (message : Option Text) : Text := text.toList ++ message.getD "unknown".toList

/-- Runs a callback; whether the connection has closed. -/
def onCallback : Callback → Prog Exn Event Bool
  | .received message deliveryTag => do
    onReceived message deliveryTag
    pure false
  | .ready => pure false
  | .closed => pure true
  | .consuming _ => pure false
  | .connectionError message => do
    throwText (errorText "RabbitMQ consumer AMQP error: " message)
    pure false
  | .channelError message => do
    throwText (errorText "RabbitMQ consumer channel error: " message)
    pure false
  | .consumerError message => do
    throwText (errorText "RabbitMQ consumer setup failed: " message)
    pure false

/-- One call of `connection.parse`: how much it parsed, and whether the connection has closed during it. -/
def parse (pending : Bytes) : Nat → Bool → Prog Exn Event (Nat × Bool) :=
  iterate fun closed => do
    let next ← emit (Event.parse pending)
    match next with
    | .returns parsed => pure (.inr (parsed, closed))
    | .throws e       => Prog.throw e
    | .calls callback => do
      let closes ← onCallback callback
      pure (.inl (closed || closes))

/-- `ConsumerRuntimeState` and `pendingBytes`. -/
structure Runtime where
  pendingBytes : Bytes := []
  connectionClosed : Bool := false
  connectionError : Bool := false

/-- `while (!pendingBytes.empty())`. -/
def parsePending (fuel : Nat) : Nat → Runtime → Prog Exn Event Runtime :=
  iterate fun state =>
    if state.pendingBytes.isEmpty then pure (.inr state)
    else do
      let (parsed, closed) ← parse state.pendingBytes fuel state.connectionClosed
      let state := { state with connectionClosed := closed }
      if parsed = 0 ∨ state.pendingBytes.length < parsed then pure (.inr state)
      else pure (.inl { state with pendingBytes := state.pendingBytes.drop parsed })

def lastSocketErrorMessage (text : String) (errno : Text) : Text := text.toList ++ " (".toList ++ errno ++ ")".toList

/-- An error of the socket: thrown, unless the server is stopping. -/
def socketError (text : String) (errno : Text) (state : Runtime) : Prog Exn Event (Runtime ⊕ Runtime) := do
  let stop ← emit Event.stopRequested
  if !stop then throwText (lastSocketErrorMessage text errno)
  pure (.inr { state with connectionError := true })

/-- The receive loop of one connection. -/
def receive (socket : Socket) (fuel : Nat) : Nat → Runtime → Prog Exn Event Runtime :=
  iterate fun state => do
    let stop ← emit Event.stopRequested
    if stop || state.connectionClosed || state.connectionError then pure (.inr state)
    else
      let status ← emit (Event.waitForSocketReadable socket)
      match status with
      | .timeout     => pure (.inl state)
      | .error errno => socketError "RabbitMQ consumer: select failed" errno state
      | .readable    => do
        let received ← emit (Event.recv socket)
        match received with
        | .closed      => pure (.inr { state with connectionClosed := true })
        | .wouldBlock  => pure (.inl state)
        | .error errno => socketError "RabbitMQ consumer: recv failed" errno state
        | .bytes chunk => do
          let state ← parsePending fuel fuel { state with pendingBytes := state.pendingBytes ++ chunk }
          pure (.inl state)

def forget (socket : Socket) : Prog Exn Event Unit := do
  emit (fun _ : Unit => Event.clearActiveSocket socket)
  emit (fun _ : Unit => Event.closeSocket socket)

/-- One connection, from its socket on. -/
def consume (socket : Socket) (fuel : Nat) : Prog Exn Event Unit := do
  emit (fun _ : Unit => Event.setActiveSocket socket)
  call Event.openChannel
  let state ← receive socket fuel fuel {}
  if state.connectionError then call Event.failConnection
  forget socket

/-- The body of the outer `while`: connect, consume, and close the socket whichever way that ends. -/
def connectAndConsume (fuel : Nat) : Prog Exn Event Unit := do
  let socket ← attempt isStd (call Event.connect)
  match socket with
  | some (some socket) => do
    let ended ← attempt isStd (consume socket fuel)
    if ended.isNone then forget socket
  | _ => pure ()

/-- `start`; every loop runs for as long as it is observed. -/
def start (fuel : Nat) : Prog Exn Event Unit :=
  (do
    iterate (fun _ : Unit => do
      let stop ← emit Event.stopRequested
      if stop then pure (.inr ())
      else
        connectAndConsume fuel
        pure (.inl ())) fuel ()
    emit (fun _ : Unit => Event.clearActiveSocket kInvalidSocket)).tryCatch fun _ => pure ()

/-! ## The events of a callback -/

def OfCallback : Event → Prop
  | .currentProcessMessage _  => True
  | .processMessage _ _ _     => True
  | .publish _ _ _            => True
  | .ack _ _                  => True
  | .reject _ _ _             => True
  | _                         => False

theorem ofCallback_ack (tag : Nat) (h : List Event) :
    Keeps (fun _ _ => True) (fun _ e => OfCallback e) (ack tag) h :=
  Prog.keeps_call_bind (fun _ => trivial) fun _ => trivial

theorem ofCallback_reject (tag : Nat) (requeue : Bool) (h : List Event) :
    Keeps (fun _ _ => True) (fun _ e => OfCallback e) (reject tag requeue) h :=
  Prog.keeps_call_bind (fun _ => trivial) fun _ => trivial

theorem ofCallback_publish (message : Message) (response : Bytes) (h : List Event) :
    Keeps (fun _ _ => True) (fun _ e => OfCallback e) (publishResponseIfRequested message response) h := by
  unfold publishResponseIfRequested
  split
  · trivial
  · refine Prog.keeps_call_bind (fun _ => trivial) fun published => ?_
    cases published <;> trivial

theorem ofCallback_processDelivery (message : Message) (tag : Nat) (h : List Event) :
    Keeps (fun _ _ => True) (fun _ e => OfCallback e) (processDelivery message tag) h := by
  refine Prog.Safe.keeps_tryCatch ?_ fun _ _ => trivial
  refine Prog.keeps_emit_bind (fun _ => trivial) fun configured => ?_
  cases configured with
  | false => trivial
  | true =>
    simp only [Bool.not_true, Bool.false_eq_true, if_false, processMessage, Prog.safe_bind, Prog.safe_emit,
      Prog.andThen_ok, Prog.safe_ofExcept]
    rintro ⟨writes, result⟩ -
    refine ⟨trivial, ?_⟩
    match result with
    | .error e => trivial
    | .ok false => trivial
    | .ok true =>
      refine (ofCallback_publish message _ _).keeps_bind fun published h' _ => ?_
      cases published with
      | false => exact ofCallback_reject tag true h'
      | true => exact ofCallback_ack tag h'

theorem ofCallback_onCallback (callback : Callback) (h : List Event) :
    Keeps (fun _ _ => True) (fun _ e => OfCallback e) (onCallback callback) h := by
  cases callback with
  | received message tag =>
    refine Prog.Safe.keeps_bind (Q := fun _ _ => True) ?_ fun _ _ _ => trivial
    unfold onReceived
    split
    · exact ofCallback_ack tag h
    · exact ofCallback_processDelivery message tag h
  | _ => trivial

/-! ## What a settled request has been through -/

def processed (payload : Bytes) (writes : List (Option Bytes)) : Event := .processMessage payload writes (.ok true)

def replied (replyTo : Text) (correlationID : Option Text) (response : Bytes) (e : Event) : Prop :=
  ∃ envelope, e = .publish replyTo envelope (.ok true) ∧ envelope.body = response ∧
    envelope.correlationID = correlationID

def consumer : Consumer Event where
  processed := processed
  replied := replied
  quiet _ := False

def requestOf (message : Message) : Request where
  payload := message.body
  correlationId := message.correlationID
  replyTo := replyToOf message

/-- The latest thing the connection did was to deliver this message. -/
def Handling (message : Message) (deliveryTag : Nat) (h : List Event) : Prop :=
  ∃ later pending earlier, h = later ++ .parse pending (.calls (.received message deliveryTag)) :: earlier ∧
    ∀ pending next, .parse pending next ∉ later

/-- The event takes the delivery from the queue for good. -/
def Settles (deliveryTag : Nat) (e : Event) : Prop :=
  ∃ result, e = .ack deliveryTag result ∨ e = .reject deliveryTag false result

/-- An event that settles does so for the delivery being handled, served just before unless its body is empty. -/
def SettledServed (h : List Event) (e : Event) : Prop :=
  ∀ deliveryTag, Settles deliveryTag e →
    ∃ message, Handling message deliveryTag h ∧ (message.body ≠ [] → consumer.Served (requestOf message) h)

theorem Handling.cons {message : Message} {deliveryTag : Nat} {h : List Event} (hd : Handling message deliveryTag h)
    (e : Event) (he : ∀ pending next, e ≠ .parse pending next) : Handling message deliveryTag (e :: h) := by
  obtain ⟨later, pending, earlier, rfl, hl⟩ := hd
  refine ⟨e :: later, pending, earlier, rfl, fun pending next hm => ?_⟩
  rcases List.mem_cons.1 hm with heq | hm
  · exact he pending next heq.symm
  · exact hl pending next hm

theorem settledServed_of_ne {h : List Event} {e : Event} (hack : ∀ tag result, e ≠ .ack tag result)
    (hreject : ∀ tag result, e ≠ .reject tag false result) : SettledServed h e := by
  rintro tag ⟨result, he | he⟩
  · exact absurd he (hack tag result)
  · exact absurd he (hreject tag result)

section Logic

theorem keeps_ack {message : Message} {deliveryTag : Nat} {h : List Event}
    (hd : Handling message deliveryTag h) (hs : message.body ≠ [] → consumer.Served (requestOf message) h) :
    Keeps (fun _ _ => True) SettledServed (ack deliveryTag) h := by
  refine Prog.keeps_call_bind (fun result => ?_) (fun _ => trivial)
  rintro tag ⟨result', heq | heq⟩
  · cases heq
    exact ⟨message, hd, hs⟩
  · cases heq

theorem safe_publishResponseIfRequested {message : Message} {deliveryTag : Nat} {h : List Event}
    {writes : List (Option Bytes)} (hd : Handling message deliveryTag (processed message.body writes :: h)) :
    (publishResponseIfRequested message (responseOf writes)).Safe (fun _ _ => True) SettledServed
      (fun h' r => ∀ published, r = .ok published →
        published = true ∧ Handling message deliveryTag h' ∧ consumer.Served (requestOf message) h')
      (processed message.body writes :: h) := by
  unfold publishResponseIfRequested
  cases hto : replyToOf message with
  | none =>
    rintro published ⟨⟩
    exact ⟨rfl, hd, Consumer.served_of_none hto rfl⟩
  | some replyTo =>
    rw [Prog.safe_bind, Prog.safe_call]
    intro result _
    refine ⟨settledServed_of_ne nofun nofun, ?_⟩
    match result with
    | .error e => exact nofun
    | .ok false => exact nofun
    | .ok true =>
      rintro published ⟨⟩
      refine ⟨rfl, hd.cons _ nofun, @Consumer.served_of_some _ consumer _ _ writes h [] _ _ hto rfl (by simp) ?_⟩
      exact ⟨_, rfl, rfl, rfl⟩

theorem keeps_processDelivery {message : Message} {deliveryTag : Nat} {h : List Event}
    (hd : Handling message deliveryTag h) :
    Keeps (fun _ _ => True) SettledServed (processDelivery message deliveryTag) h := by
  refine Prog.Safe.keeps_tryCatch ?_ fun _ _ => trivial
  refine Prog.keeps_emit_bind (fun _ => settledServed_of_ne nofun nofun) fun configured => ?_
  cases configured with
  | false => trivial
  | true =>
    simp only [Bool.not_true, Bool.false_eq_true, if_false, processMessage, Prog.safe_bind, Prog.safe_emit,
      Prog.andThen_ok, Prog.safe_ofExcept]
    rintro ⟨writes, result⟩ -
    refine ⟨settledServed_of_ne nofun nofun, ?_⟩
    match result with
    | .error e => trivial
    | .ok false => trivial
    | .ok true =>
      have hd' := (hd.cons (.currentProcessMessage true) nofun).cons (processed message.body writes) nofun
      refine (safe_publishResponseIfRequested hd').keeps_bind fun published h' hp => ?_
      obtain ⟨rfl, hd', hs⟩ := hp published rfl
      exact keeps_ack hd' fun _ => hs

theorem keeps_onCallback (pending : Bytes) (callback : Callback) (h : List Event) :
    Keeps (fun _ _ => True) SettledServed (onCallback callback) (.parse pending (.calls callback) :: h) := by
  cases callback with
  | received message deliveryTag =>
    have hd : Handling message deliveryTag (.parse pending (.calls (.received message deliveryTag)) :: h) :=
      ⟨[], pending, h, rfl, nofun⟩
    refine Prog.Safe.keeps_bind (Q := fun _ _ => True) ?_ fun _ _ _ => trivial
    unfold onReceived
    split
    · rename_i hempty
      exact keeps_ack hd fun hne => absurd (List.isEmpty_iff.1 hempty) hne
    · exact keeps_processDelivery hd
  | _ => trivial

theorem keeps_parse (pending : Bytes) (fuel : Nat) (closed : Bool) (h : List Event) :
    Keeps (fun _ _ => True) SettledServed (parse pending fuel closed) h := by
  refine Prog.keeps_iterate (fun closed h => ?_) fuel closed h
  refine Prog.keeps_emit_bind (fun _ => settledServed_of_ne nofun nofun) fun next => ?_
  cases next with
  | returns parsed => trivial
  | throws e => trivial
  | calls callback => exact (keeps_onCallback pending callback h).keeps_bind fun _ _ _ => trivial

theorem keeps_parsePending (fuel fuel' : Nat) (state : Runtime) (h : List Event) :
    Keeps (fun _ _ => True) SettledServed (parsePending fuel fuel' state) h := by
  refine Prog.keeps_iterate (fun state h => ?_) fuel' state h
  split
  · trivial
  refine (keeps_parse state.pendingBytes fuel state.connectionClosed h).keeps_bind fun r h' _ => ?_
  dsimp only
  split <;> trivial

theorem keeps_socketError (text : String) (errno : Text) (state : Runtime) (h : List Event) :
    Keeps (fun _ _ => True) SettledServed (socketError text errno state) h :=
  Prog.keeps_emit_bind (fun _ => settledServed_of_ne nofun nofun) fun stop => by cases stop <;> trivial

theorem keeps_receive (socket : Socket) (fuel fuel' : Nat) (state : Runtime) (h : List Event) :
    Keeps (fun _ _ => True) SettledServed (receive socket fuel fuel' state) h := by
  refine Prog.keeps_iterate (fun state h => ?_) fuel' state h
  refine Prog.keeps_emit_bind (fun _ => settledServed_of_ne nofun nofun) fun stop => ?_
  split
  · trivial
  refine Prog.keeps_emit_bind (fun _ => settledServed_of_ne nofun nofun) fun status => ?_
  cases status with
  | timeout => trivial
  | error errno => exact keeps_socketError _ errno state _
  | readable =>
    refine Prog.keeps_emit_bind (fun _ => settledServed_of_ne nofun nofun) fun received => ?_
    cases received with
    | closed => trivial
    | wouldBlock => trivial
    | error errno => exact keeps_socketError _ errno state _
    | bytes chunk => exact (keeps_parsePending _ _ _ _).keeps_bind fun _ _ _ => trivial

theorem keeps_forget (socket : Socket) (h : List Event) :
    Keeps (fun _ _ => True) SettledServed (forget socket) h :=
  Prog.keeps_emit_bind (fun _ => settledServed_of_ne nofun nofun) fun _ =>
    Prog.keeps_emit fun _ => settledServed_of_ne nofun nofun

theorem keeps_consume (socket : Socket) (fuel : Nat) (h : List Event) :
    Keeps (fun _ _ => True) SettledServed (consume socket fuel) h := by
  refine Prog.keeps_emit_bind (fun _ => settledServed_of_ne nofun nofun) fun _ => ?_
  refine Prog.keeps_call_bind (fun _ => settledServed_of_ne nofun nofun) fun _ => ?_
  refine (keeps_receive socket fuel fuel {} _).keeps_bind fun state h' _ => ?_
  dsimp only
  split
  · exact Prog.keeps_call_bind (fun _ => settledServed_of_ne nofun nofun) fun _ => keeps_forget socket _
  · exact keeps_forget socket _

theorem keeps_connectAndConsume (fuel : Nat) (h : List Event) :
    Keeps (fun _ _ => True) SettledServed (connectAndConsume fuel) h := by
  have hconnect : Keeps (fun _ _ => True) SettledServed (call Event.connect) h :=
    Prog.keeps_call fun _ => settledServed_of_ne nofun nofun
  refine hconnect.keeps_attempt.keeps_bind fun socket h' _ => ?_
  match socket with
  | none => trivial
  | some none => trivial
  | some (some socket) =>
    refine (Prog.Safe.keeps_attempt (keeps_consume socket fuel h')).keeps_bind fun ended h'' _ => ?_
    split
    · exact keeps_forget socket h''
    · trivial

/-- **Every run of the consumer settles only what it served**, or what was empty. -/
theorem start_admits {fuel : Nat} {t : List Event} {o : Outcome Exn Unit} (hr : (start fuel).Runs t o) :
    Prog.Admits SettledServed [] t := by
  refine Prog.Safe.admits_of_keeps (p := start fuel) ?_ hr
  refine Prog.Safe.keeps_tryCatch ?_ fun _ _ => trivial
  refine (Prog.keeps_iterate (fun _ h => ?_) fuel () []).keeps_bind fun _ h' _ =>
    Prog.keeps_emit fun _ => settledServed_of_ne nofun nofun
  refine Prog.keeps_emit_bind (fun _ => settledServed_of_ne nofun nofun) fun stop => ?_
  split
  · trivial
  · exact (keeps_connectAndConsume fuel _).keeps_bind fun _ _ _ => trivial

end Logic

end RabbitMq
end Graftcode
