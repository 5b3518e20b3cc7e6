import Graftcode.CorrelationIds
import Graftcode.ReplySenderCache
import Graftcode.RpcTimeouts
import Graftcode.TicketScope
/-!
# ServiceBusClient — a call, and the thread that dispatches a link's replies

`ServiceBusClient.cpp`: the constructor of `ServiceBusRpcClient`, `Call`, `Link::Send`, `Link::DispatchReplies`,
`Link::Disconnect` and the destructor.  `CurrentLink` is one event here; `LinkClient` has who holds which link.
-/
namespace Graftcode
namespace ServiceBus

open Prog (emit call ofExcept iterate)
open PendingReplies (WaitResult waitedOr withTicket)

/-- What `WaitForIncomingMessage` comes to at the client; `cancelled` is `OperationCancelledException`. -/
inductive IncomingReply where
  | cancelled
  | throws (e : Exn)
  | error (description : Text)
  | nothing
  | message (m : AmqpMessage)

inductive ClientEvent where
  | buildCorrelationId (reading : Reading) (sequence : UInt64)
  | currentLink (result : Except Exn Unit)
  | pending (event : PendingReplies.Event)
  | send (message : AmqpMessage) (result : Except Exn Bool)
  | brokenStored
  | stoppingLoaded (stopping : Bool)
  | waitForIncomingMessage (incoming : IncomingReply)

def drawCorrelationId : Prog Exn ClientEvent Text :=
  emit (fun drawn : Reading × UInt64 => ClientEvent.buildCorrelationId drawn.1 drawn.2) >>= fun drawn =>
    pure (buildCorrelationId drawn.1 drawn.2)

/-- The constructor, which draws `replySessionId_`. -/
def construct : Prog Exn ClientEvent Text := drawCorrelationId

/-! ## The call -/

/-- `Link::Send`. -/
def send (message : AmqpMessage) : Prog Exn ClientEvent Unit := do
  let sendSucceeded ← call (ClientEvent.send message)
  if sendSucceeded then pure ()
  else
    emit fun _ : Unit => ClientEvent.brokenStored
    Prog.throw (.std "failed to send Service Bus message".toList)

def timeoutMs (config : ServiceBusSettings) : Nat := if config.rpcTimeoutMs = 0 then 30000 else config.rpcTimeoutMs

/-- What `Call` makes of `ticket.Wait`. -/
def waited (config : ServiceBusSettings) (correlationId : Text) : WaitResult → Except Exn Bytes :=
  waitedOr (.std ("Service Bus RPC timed out after ".toList ++ Numeral.decimal (timeoutMs config) ++
    " ms waiting for correlation id ".toList ++ correlationId)) Exn.std

def nullPayload : Exn := .std "Service Bus client: null payload with non-zero length".toList

/-- `Call`; `callMessage` repeats the check that the constructor of the link has made. -/
def callClient (config : ServiceBusSettings) (replySessionId : Text) (payload : Option Bytes) (payloadSize : Nat) :
    Prog Exn ClientEvent Bytes :=
  if 0 < payloadSize ∧ payload = none then Prog.throw nullPayload
  else do
    call ClientEvent.currentLink
    let correlationId ← drawCorrelationId
    let message ← ofExcept
      (callMessage config.toServiceBusClientConfig replySessionId correlationId payload payloadSize)
    if config.oneWay then do
      send message
      pure []
    else withTicket ClientEvent.pending Exn.std correlationId (send message) (waited config correlationId)

/-! ## The dispatcher of a link -/

/-- `Link::Disconnect`. -/
def disconnect (error : Text) : Prog Exn ClientEvent Unit := do
  emit fun _ : Unit => ClientEvent.brokenStored
  emit fun _ : Unit => ClientEvent.pending (.failedAll error)

def receiverFailed : Text := "Service Bus reply receiver failed: ".toList

/-- `properties.CorrelationId`, else `properties.MessageId`. -/
def correlationOf (message : AmqpMessage) : AmqpValue :=
  match message.correlationId with
  | .null => message.messageId
  | id    => id

/-- The end of the loop's body: an id that is no string is caught and forgotten. -/
def handOver (message : AmqpMessage) : Prog Exn ClientEvent Unit :=
  match correlationOf message with
  | .string id => do
    let _ ← emit fun found : Bool => ClientEvent.pending (.completed id (extractMessageBody message) found)
    pure ()
  | .null      => pure ()
  | .other     => pure ()

/-- `Link::DispatchReplies`; the loop runs for as long as it is observed. -/
def dispatchReplies : Nat → Prog Exn ClientEvent Unit :=
  fun fuel => iterate (fun _ : Unit => do
    let stopping ← emit ClientEvent.stoppingLoaded
    if stopping then pure (.inr ())
    else
      let incoming ← emit ClientEvent.waitForIncomingMessage
      match incoming with
      | .cancelled          => pure (.inl ())
      | .throws (.std what) => do
        disconnect (receiverFailed ++ what)
        pure (.inr ())
      | .throws .unknown    => Prog.throw .unknown
      | .error description  => do
        disconnect (receiverFailed ++ description)
        pure (.inr ())
      | .nothing            => pure (.inl ())
      | .message m          => do
        handOver m
        pure (.inl ())) fuel ()

def shuttingDown : Text := "Service Bus client is shutting down".toList

/-- The destructor, up to the release of the link. -/
def destroyClient : Prog Exn ClientEvent Unit := emit fun _ : Unit => ClientEvent.pending (.closed shuttingDown)

/-! ## What the threads of a client keep to -/

/-- The thread drew `id`. -/
def Drew (id : Text) (h : List ClientEvent) : Prop :=
  ∃ reading sequence, .buildCorrelationId reading sequence ∈ h ∧ id = buildCorrelationId reading sequence

/-- A call sends nothing but its own message, under an id it drew. -/
def SendsOwn (config : ServiceBusSettings) (replySessionId : Text) (payload : Option Bytes) (payloadSize : Nat)
    (h : List ClientEvent) (e : ClientEvent) : Prop :=
  ∀ message result, e = .send message result → ∃ id, Drew id h ∧
    callMessage config.toServiceBusClientConfig replySessionId id payload payloadSize = .ok message

abbrev CallDiscipline (config : ServiceBusSettings) (replySessionId : Text) (payload : Option Bytes) (payloadSize : Nat)
    (h : List ClientEvent) (e : ClientEvent) : Prop :=
  PendingReplies.CallsOnce ClientEvent.pending Drew h e ∧ SendsOwn config replySessionId payload payloadSize h e

/-- Why a dispatcher works on the map. -/
inductive Dispatched (h : List ClientEvent) : PendingReplies.Event → Prop where
  | reply (m : AmqpMessage) (id : Text) (found : Bool) (received : .waitForIncomingMessage (.message m) ∈ h)
      (own : correlationOf m = .string id) : Dispatched h (.completed id (extractMessageBody m) found)
  | receiverThrew (what : Text) (received : .waitForIncomingMessage (.throws (.std what)) ∈ h) :
      Dispatched h (.failedAll (receiverFailed ++ what))
  | receiverFailed (description : Text) (received : .waitForIncomingMessage (.error description) ∈ h) :
      Dispatched h (.failedAll (receiverFailed ++ description))

structure DispatchDiscipline (h : List ClientEvent) (e : ClientEvent) : Prop where
  finishes : ∀ event, e = .pending event → Dispatched h event
  sends : ∀ message result, e ≠ .send message result
  draws : ∀ reading sequence, e ≠ .buildCorrelationId reading sequence

section Calls

variable {config : ServiceBusSettings} {replySessionId : Text} {payload : Option Bytes} {payloadSize : Nat}
  {h : List ClientEvent}

theorem pending_injective : Function.Injective ClientEvent.pending := fun _ _ h => ClientEvent.pending.inj h

theorem Drew.cons {id : Text} (hd : Drew id h) (e : ClientEvent) : Drew id (e :: h) := by
  obtain ⟨reading, sequence, hm, hid⟩ := hd
  exact ⟨reading, sequence, List.mem_cons_of_mem _ hm, hid⟩

theorem quiet_send (message : AmqpMessage) (h : List ClientEvent) :
    (send message).Safe (fun _ _ => True) (PendingReplies.Quiet ClientEvent.pending) (fun _ _ => True) h := by
  refine Prog.keeps_call_bind (fun _ => by simp [PendingReplies.Quiet]) fun sendSucceeded => ?_
  cases sendSucceeded with
  | true => trivial
  | false => exact Prog.keeps_emit_bind (fun _ => by simp [PendingReplies.Quiet]) fun _ => trivial

/-- **What a call keeps to on the map**, and what a two-way call has done when it returns. -/
theorem safe_callClient :
    (callClient config replySessionId payload payloadSize).Safe (fun _ _ => True)
      (PendingReplies.CallsOnce ClientEvent.pending Drew)
      (fun h r => config.oneWay = false → ∀ bytes, r = .ok bytes → ∃ slot, .pending (.waited slot (.returned bytes)) ∈ h)
      [] := by
  unfold callClient drawCorrelationId
  split
  · exact fun _ _ hr => nomatch hr
  simp only [Prog.safe_bind, Prog.safe_call]
  intro link _
  refine ⟨PendingReplies.callsOnce_quiet (by simp [PendingReplies.Quiet]), ?_⟩
  cases link with
  | error e => exact fun _ _ hr => nomatch hr
  | ok u =>
    simp only [Prog.andThen_ok, Prog.safe_bind, Prog.safe_emit, Prog.safe_pure, Prog.safe_ofExcept]
    rintro ⟨reading, sequence⟩ -
    refine ⟨PendingReplies.callsOnce_quiet (by simp [PendingReplies.Quiet]), ?_⟩
    cases callMessage config.toServiceBusClientConfig replySessionId (buildCorrelationId reading sequence) payload
        payloadSize with
    | error e => exact fun _ _ hr => nomatch hr
    | ok message =>
      simp only [Prog.andThen_ok]
      split
      · rename_i hway
        rw [Prog.safe_bind]
        refine (PendingReplies.safe_quiet (P := fun _ => True) (fun _ _ _ _ => trivial) (quiet_send message _)
          trivial).mono fun h r _ => ?_
        have hnot : config.oneWay ≠ false := by
          rw [hway]
          decide
        cases r with
        | error e => exact fun hw => absurd hw hnot
        | ok u => exact fun hw => absurd hw hnot
      · have hdrew : Drew (buildCorrelationId reading sequence)
            [.buildCorrelationId reading sequence, .currentLink (.ok u)] :=
          ⟨reading, sequence, List.mem_cons_self, rfl⟩
        have hun : PendingReplies.Unwaited ClientEvent.pending
            [.buildCorrelationId reading sequence, .currentLink (.ok u)] := fun slot r hm => by simp at hm
        refine (PendingReplies.safe_withTicket pending_injective hdrew hun (quiet_send message)).mono
          fun h r hr _ bytes hb => ?_
        obtain ⟨slot, result, hm, hw⟩ := hr bytes hb
        rw [PendingReplies.waitedOr_eq_ok hw] at hm
        exact ⟨slot, hm⟩

theorem sendsOwn_of_ne {e : ClientEvent} (he : ∀ message result, e ≠ .send message result) :
    SendsOwn config replySessionId payload payloadSize h e := fun message result heq => absurd heq (he message result)

theorem keeps_send {id : Text} {message : AmqpMessage} (hd : Drew id h)
    (hm : callMessage config.toServiceBusClientConfig replySessionId id payload payloadSize = .ok message) :
    Prog.Keeps (fun _ _ => True) (SendsOwn config replySessionId payload payloadSize) (send message) h := by
  refine Prog.keeps_call_bind (fun result => ?_) fun sendSucceeded => ?_
  · intro message' result' heq
    cases heq
    exact ⟨id, hd, hm⟩
  cases sendSucceeded with
  | true => trivial
  | false => exact Prog.keeps_emit_bind (fun _ => sendsOwn_of_ne (by simp)) fun _ => trivial

theorem keeps_callClient :
    Prog.Keeps (fun _ _ => True) (SendsOwn config replySessionId payload payloadSize)
      (callClient config replySessionId payload payloadSize) [] := by
  unfold callClient drawCorrelationId
  split
  · trivial
  refine Prog.keeps_call_bind (fun _ => sendsOwn_of_ne (by simp)) fun _ => ?_
  simp only [Prog.Keeps, Prog.safe_bind, Prog.safe_emit, Prog.andThen_ok, Prog.safe_pure, Prog.safe_ofExcept]
  rintro ⟨reading, sequence⟩ -
  refine ⟨sendsOwn_of_ne (by simp), ?_⟩
  cases hmessage : callMessage config.toServiceBusClientConfig replySessionId (buildCorrelationId reading sequence) payload
      payloadSize with
  | error e => trivial
  | ok message =>
    have hdrew : ∀ h, Drew (buildCorrelationId reading sequence) (.buildCorrelationId reading sequence :: h) :=
      fun h => ⟨reading, sequence, List.mem_cons_self, rfl⟩
    simp only [Prog.andThen_ok]
    split
    · exact (keeps_send (hdrew _) hmessage).keeps_bind fun _ _ _ => trivial
    · exact PendingReplies.keeps_withTicket (fun _ _ _ => sendsOwn_of_ne (by simp)) fun slot =>
        keeps_send ((hdrew _).cons _) hmessage

end Calls

section Dispatcher

variable {h : List ClientEvent}

theorem dispatchDiscipline_free {e : ClientEvent} (hp : ∀ event, e ≠ .pending event)
    (hs : ∀ message result, e ≠ .send message result) (hd : ∀ reading sequence, e ≠ .buildCorrelationId reading sequence) :
    DispatchDiscipline h e where
  finishes _ heq := absurd heq (hp _)
  sends := hs
  draws := hd

theorem dispatchDiscipline_pending {event : PendingReplies.Event} (hd : Dispatched h event) :
    DispatchDiscipline h (.pending event) where
  finishes event' heq := by
    cases heq
    exact hd
  sends := by simp
  draws := by simp

theorem keeps_disconnect {error : Text} (hd : ∀ e, Dispatched (e :: h) (.failedAll error)) :
    Prog.Keeps (fun _ _ => True) DispatchDiscipline (disconnect error) h :=
  Prog.keeps_emit_bind (fun _ => dispatchDiscipline_free (by simp) (by simp) (by simp)) fun _ =>
    Prog.keeps_emit fun _ => dispatchDiscipline_pending (hd _)

/-- **What the dispatcher of a link keeps to.** -/
theorem keeps_dispatchReplies (fuel : Nat) :
    Prog.Keeps (fun _ _ => True) DispatchDiscipline (dispatchReplies fuel) [] := by
  refine Prog.keeps_iterate (fun _ h => ?_) fuel () []
  refine Prog.keeps_emit_bind (fun _ => dispatchDiscipline_free (by simp) (by simp) (by simp)) fun stopping => ?_
  split
  · trivial
  refine Prog.keeps_emit_bind (fun _ => dispatchDiscipline_free (by simp) (by simp) (by simp)) fun incoming => ?_
  cases incoming with
  | cancelled => trivial
  | throws e =>
    cases e with
    | unknown => trivial
    | std what =>
      refine (keeps_disconnect fun _ => ?_).keeps_bind fun _ _ _ => trivial
      exact .receiverThrew what (by simp)
  | error description =>
    refine (keeps_disconnect fun _ => ?_).keeps_bind fun _ _ _ => trivial
    exact .receiverFailed description (by simp)
  | nothing => trivial
  | message m =>
    refine Prog.Safe.keeps_bind (Q := fun _ _ => True) ?_ fun _ _ _ => trivial
    unfold handOver
    split
    · rename_i id hid
      refine Prog.keeps_emit_bind (fun found => dispatchDiscipline_pending ?_) fun _ => trivial
      exact .reply m id found List.mem_cons_self hid
    · trivial
    · trivial

end Dispatcher

end ServiceBus
end Graftcode
