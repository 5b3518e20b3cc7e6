import Graftcode.RabbitMqServer
import Graftcode.ServiceBusServer
/-!
# RequestSettled — what the clients send and what the servers do with it

The message that `Call` makes of a payload, in the RabbitMQ and the Service Bus client, and the server that gets it
unaltered.  A payload with at least one byte is processed before its message is settled.  An empty one is sent by both
clients, and both servers drop it: `onReceived` acknowledges it, the Service Bus loop goes on to the next message.
-/
namespace Graftcode

/-- The bytes a pointer and a size stand for; a null pointer is `none`. -/
def requestBytes (payload : Option Bytes) (payloadSize : Nat) : Bytes := (payload.getD []).take payloadSize

namespace RabbitMq

/-- `RabbitMqRpcClient::Call`, up to what `Link::Publish` gives to the channel. -/
def callEnvelope (queue replyQueue correlationId : Text) (payload : Option Bytes) (payloadSize : Nat) :
    Except Exn Envelope :=
  if queue.isEmpty then .error (.std "RabbitMQ queue is not configured".toList)
  else if 0 < payloadSize ∧ payload = none then
    .error (.std "RabbitMQ client: null payload with non-zero length".toList)
  else
    .ok {
      body := requestBytes payload payloadSize
      contentType := "application/octet-stream".toList
      correlationID := some correlationId
      replyTo := some replyQueue }

/-- The message a consumer gets of an envelope. -/
def Envelope.delivered (envelope : Envelope) : Message := ⟨envelope.body, envelope.replyTo, envelope.correlationID⟩

theorem requestOf_delivered {queue replyQueue correlationId : Text} {payload : Option Bytes} {payloadSize : Nat}
    {envelope : Envelope} (hcall : callEnvelope queue replyQueue correlationId payload payloadSize = .ok envelope)
    (hqueue : replyQueue ≠ []) :
    requestOf envelope.delivered = ⟨requestBytes payload payloadSize, some correlationId, some replyQueue⟩ := by
  unfold callEnvelope at hcall
  split at hcall
  · cases hcall
  split at hcall
  · cases hcall
  cases hcall
  simp [requestOf, Envelope.delivered, replyToOf, hqueue]

end RabbitMq

namespace ServiceBus

structure ServiceBusClientConfig where
  queue : Text := []
  topic : Text := []
  replyQueue : Text := []

def ServiceBusClientConfig.oneWay (config : ServiceBusClientConfig) : Bool := !config.topic.isEmpty

/-- `ServiceBusRpcClient::Call`, up to what it gives to `Link::Send`, with the check that `Link` makes. -/
def callMessage (config : ServiceBusClientConfig) (replySessionId correlationId : Text) (payload : Option Bytes)
    (payloadSize : Nat) : Except Exn AmqpMessage :=
  if 0 < payloadSize ∧ payload = none then
    .error (.std "Service Bus client: null payload with non-zero length".toList)
  else if !config.oneWay && (config.queue.isEmpty || config.replyQueue.isEmpty) then
    .error (.std "Service Bus queue and replyQueue must be configured".toList)
  else
    let message : AmqpMessage := {
      body := .data [requestBytes payload payloadSize]
      messageId := .string correlationId
      contentType := some "application/octet-stream".toList }
    if config.oneWay then .ok message
    else .ok { message with replyTo := .string config.replyQueue, replyToGroupId := some replySessionId }

section Call

variable {config : ServiceBusClientConfig} {replySessionId correlationId : Text} {payload : Option Bytes}
  {payloadSize : Nat} {m : AmqpMessage}

theorem callMessage_body (hcall : callMessage config replySessionId correlationId payload payloadSize = .ok m) :
    extractMessageBody m = requestBytes payload payloadSize := by
  unfold callMessage at hcall
  split at hcall
  · cases hcall
  split at hcall
  · cases hcall
  dsimp only at hcall
  split at hcall <;> cases hcall <;> simp [extractMessageBody]

theorem callMessage_reply (hcall : callMessage config replySessionId correlationId payload payloadSize = .ok m)
    (hway : config.oneWay = false) : tryGetReplyTo m = some config.replyQueue ∧ m.messageId = .string correlationId := by
  unfold callMessage at hcall
  split at hcall
  · cases hcall
  split at hcall
  · cases hcall
  rename_i hconfig
  simp only [hway, Bool.not_false, Bool.true_and, Bool.or_eq_true, not_or, List.isEmpty_iff] at hconfig
  simp only [hway, Bool.false_eq_true, if_false, Except.ok.injEq] at hcall
  subst hcall
  simp [tryGetReplyTo, hconfig.2]

end Call

end ServiceBus

/-- **Every accepted request with a body is processed**: when RabbitMQ's consumer settles a delivery, and when the Service
Bus consumer moves on from a message it took. -/
theorem accepted_request_processed :
    (∀ (fuel : Nat) (t : List RabbitMq.Event) (o : Outcome Exn Unit), (RabbitMq.start fuel).Runs t o →
      ∀ before deliveryTag e after, t = before ++ e :: after → RabbitMq.Settles deliveryTag e →
        ∃ message, RabbitMq.Handling message deliveryTag before.reverse ∧
          ∀ queue replyQueue correlationId payload payloadSize envelope,
            RabbitMq.callEnvelope queue replyQueue correlationId payload payloadSize = .ok envelope →
            envelope.delivered = message → replyQueue ≠ [] → requestBytes payload payloadSize ≠ [] →
            RabbitMq.consumer.Served ⟨requestBytes payload payloadSize, some correlationId, some replyQueue⟩
              before.reverse) ∧
    (∀ (config : ServiceBus.ServiceBusServerConfig) (fuel : Nat) (t : List ServiceBus.Event) (o : Outcome Exn Unit),
      (ServiceBus.start config fuel).Runs t o → .currentProcessMessage false ∉ t →
      ∀ before m since e after, t = before ++ .receive (.message m) :: (since ++ e :: after) →
        (∀ incoming, .receive incoming ∉ since) → ServiceBus.MovesOn e →
        ∀ client replySessionId correlationId payload payloadSize,
          ServiceBus.callMessage client replySessionId correlationId payload payloadSize = .ok m →
          requestBytes payload payloadSize ≠ [] →
          ∃ writes result, .processMessage (requestBytes payload payloadSize) writes result ∈ since ∧
            (client.oneWay = false → config.oneWay = false → result = .ok true →
              ∃ replySession sent, .publishReply client.replyQueue (responseOf writes) (.string correlationId)
                replySession sent ∈ since)) := by
  refine ⟨?_, ?_⟩
  · intro fuel t o hr before deliveryTag e after ht hsettles
    have hj := (Prog.admits_iff _ _ _).1 (RabbitMq.start_admits hr) before _ after ht
    rw [List.append_nil] at hj
    obtain ⟨message, hhandling, hserved⟩ := hj deliveryTag hsettles
    refine ⟨message, hhandling, fun queue replyQueue id payload size envelope hcall hdelivered hqueue hbody => ?_⟩
    rw [← RabbitMq.requestOf_delivered hcall hqueue, hdelivered]
    refine hserved fun hempty => hbody ?_
    rw [← hdelivered] at hempty
    have := congrArg Request.payload (RabbitMq.requestOf_delivered hcall hqueue)
    exact this.symm.trans hempty
  · intro config fuel t o hr hconfigured before m since e after ht hsince hmoves client session id payload size hcall
      hbody
    have hallowed : Prog.Admits ServiceBus.Configured [] t := (Prog.admits_iff _ _ _).2
      fun pre x post hs heq => hconfigured (by rw [hs, heq]; simp)
    have hj := (Prog.admits_iff _ _ _).1 (ServiceBus.start_admits hr hallowed) (before ++ .receive (.message m) :: since)
      e after (by rw [ht]; simp)
    have hlast : ServiceBus.takenLast ((before ++ .receive (.message m) :: since).reverse ++ []) =
        some (m, since.reverse) := by
      simpa using @ServiceBus.takenLast_append m before.reverse since.reverse (by simpa using hsince)
    have hhandled := hj hmoves m since.reverse hlast
    rw [ServiceBus.Handled, ServiceBus.callMessage_body hcall] at hhandled
    obtain ⟨writes, result, hp, hreply⟩ := hhandled hbody
    refine ⟨writes, result, by simpa using hp, fun hclient hserver hok => ?_⟩
    obtain ⟨hto, hid⟩ := ServiceBus.callMessage_reply hcall hclient
    obtain ⟨sent, hm⟩ := hreply hserver hok _ hto
    rw [hid] at hm
    exact ⟨_, sent, by simpa using hm⟩

/-- A two-way request with the bytes given, as the Service Bus client makes it. -/
def demoCall (payload : Bytes) : ServiceBus.AmqpMessage where
  body := .data [payload]
  messageId := .string ['a']
  contentType := some "application/octet-stream".toList
  replyTo := .string ['r']
  replyToGroupId := some ['s']

theorem accepted_request_processed_demo :
    ∃ writes result, ServiceBus.Event.processMessage [7] writes result ∈ ([.currentProcessMessage true,
        .processMessage [7] [some [8]] (.ok true), .publishReply ['r'] [8] (.string ['a']) (some ['s']) (.ok true)] :
        List ServiceBus.Event) ∧
      (false = false → false = false → result = .ok true →
        ∃ replySession sent, ServiceBus.Event.publishReply ['r'] (responseOf writes) (.string ['a']) replySession sent ∈
          ([.currentProcessMessage true, .processMessage [7] [some [8]] (.ok true),
            .publishReply ['r'] [8] (.string ['a']) (some ['s']) (.ok true)] : List ServiceBus.Event)) := by
  have hr : (ServiceBus.start { queue := ['q'] } 2).Runs
      ([.stopRequested false, .connect (.ok ()), .stopRequested false] ++ .receive (.message (demoCall [7])) ::
        ([.currentProcessMessage true, .processMessage [7] [some [8]] (.ok true),
          .publishReply ['r'] [8] (.string ['a']) (some ['s']) (.ok true)] ++ .stopRequested true :: [])) .cut := by
    refine Prog.runs_ask.2 ⟨false, rfl, ?_⟩
    refine Prog.runs_ask.2 ⟨.ok (), rfl, ?_⟩
    refine Prog.runs_ask.2 ⟨false, rfl, ?_⟩
    refine Prog.runs_ask.2 ⟨.message (demoCall [7]), rfl, ?_⟩
    refine Prog.runs_ask.2 ⟨true, rfl, ?_⟩
    refine Prog.runs_ask.2 ⟨([some [8]], .ok true), rfl, ?_⟩
    refine Prog.runs_ask.2 ⟨.ok true, rfl, ?_⟩
    refine Prog.runs_ask.2 ⟨true, rfl, ?_⟩
    exact Prog.runs_ask_cut _ _
  exact accepted_request_processed.2 _ 2 _ _ hr (by simp) _ _ _ _ _ rfl (by simp) (Or.inr ⟨true, rfl⟩)
    { queue := ['q'], replyQueue := ['r'] } ['s'] ['a'] (some [7]) 1 rfl (by decide)

/-- An empty payload is sent, taken and settled; `processMessage` is never called. -/
theorem empty_request_settled :
    (∃ envelope before, RabbitMq.callEnvelope ['q'] ['r'] ['a'] (some []) 0 = .ok envelope ∧
      RabbitMq.Handling envelope.delivered 1 before.reverse ∧
      (RabbitMq.start 1).Runs (before ++ [.ack 1 (.ok true)]) .cut ∧
      ∀ payload writes result, .processMessage payload writes result ∉ before) ∧
    ∃ m before, ServiceBus.callMessage { queue := ['q'], replyQueue := ['r'] } ['s'] ['a'] (some []) 0 = .ok m ∧
      (ServiceBus.start { queue := ['q'] } 2).Runs (before ++ [.receive (.message m), .stopRequested true]) .cut ∧
      ∀ payload writes result, .processMessage payload writes result ∉ before := by
  refine ⟨⟨_, [.stopRequested false, .connect (.ok (some 3)), .setActiveSocket 3, .openChannel (.ok ()),
    .stopRequested false, .waitForSocketReadable 3 .readable, .recv 3 (.bytes [1]),
    .parse [1] (.calls (.received ⟨[], some ['r'], some ['a']⟩ 1))], rfl, ⟨[], [1], _, rfl, nofun⟩, ?_, by simp⟩,
    ⟨demoCall [], [.stopRequested false, .connect (.ok ()), .stopRequested false], rfl, ?_, by simp⟩⟩
  · refine Prog.runs_ask.2 ⟨false, rfl, ?_⟩
    refine Prog.runs_ask.2 ⟨.ok (some 3), rfl, ?_⟩
    refine Prog.runs_ask.2 ⟨(), rfl, ?_⟩
    refine Prog.runs_ask.2 ⟨.ok (), rfl, ?_⟩
    refine Prog.runs_ask.2 ⟨false, rfl, ?_⟩
    refine Prog.runs_ask.2 ⟨.readable, rfl, ?_⟩
    refine Prog.runs_ask.2 ⟨.bytes [1], rfl, ?_⟩
    refine Prog.runs_ask.2 ⟨.calls (.received ⟨[], some ['r'], some ['a']⟩ 1), rfl, ?_⟩
    refine Prog.runs_ask.2 ⟨.ok true, rfl, ?_⟩
    exact ⟨rfl, rfl⟩
  · refine Prog.runs_ask.2 ⟨false, rfl, ?_⟩
    refine Prog.runs_ask.2 ⟨.ok (), rfl, ?_⟩
    refine Prog.runs_ask.2 ⟨false, rfl, ?_⟩
    refine Prog.runs_ask.2 ⟨.message (demoCall []), rfl, ?_⟩
    refine Prog.runs_ask.2 ⟨true, rfl, ?_⟩
    exact Prog.runs_ask_cut _ _

end Graftcode
