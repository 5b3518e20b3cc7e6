import Graftcode.PubSubServer
import Graftcode.RabbitMqServer
import Graftcode.SqsServer
/-!
# AckAfterSuccess — a request leaves its queue only after it succeeded

The three gateways that settle a request themselves.  In every run of each of them, whatever the outside answers and
however often it redelivers, an event that settles a request stands directly behind the request's success: the handler
returned `true` on its payload, and what the handler wrote was accepted where the request wanted its reply.
-/
namespace Graftcode

/-- **Acknowledged after success**: every `Acknowledge`, `DeleteMessage` and channel `ack` is of a message of the latest
delivery, and that message was served directly before it (for RabbitMQ, when it has a body). -/
theorem acknowledged_after_success :
    (∀ (parse : Text → Option Json) (config : PubSub.PubSubConfig) (configured : Bool) (fuel fuel' : Nat)
        (t : List PubSub.Event) (o : Outcome PubSub.Error Unit),
      (PubSub.start parse config configured fuel fuel').Runs t o →
      ∀ before config' subscription ackIds answer after,
        t = before ++ .request (PubSub.acknowledgeRequest config' subscription ackIds) answer :: after →
        ∃ batch message, PubSub.Delivered parse config batch before.reverse ∧ message ∈ batch ∧
          ackIds = [message.ackId] ∧
          (PubSub.consumer config).Served (PubSub.requestOf config message) before.reverse) ∧
    (∀ (sdk : Sqs.Sdk) (config : Sqs.SqsConfig) (configured : Bool) (fuel : Nat) (t : List Sqs.Event)
        (o : Outcome Exn Unit),
      (Sqs.start sdk config configured fuel).Runs t o →
      ∀ before queueUrl receiptHandle outcome after,
        t = before ++ .deleteMessage queueUrl receiptHandle outcome :: after →
        ∃ messages message request, Sqs.Delivered messages before.reverse ∧ message ∈ messages ∧
          receiptHandle = message.receiptHandle ∧ Sqs.RequestOf sdk config message request ∧
          (Sqs.consumer sdk).Served request before.reverse) ∧
    (∀ (fuel : Nat) (t : List RabbitMq.Event) (o : Outcome Exn Unit), (RabbitMq.start fuel).Runs t o →
      ∀ before deliveryTag result after, t = before ++ .ack deliveryTag result :: after →
        ∃ message, RabbitMq.Handling message deliveryTag before.reverse ∧
          (message.body ≠ [] → RabbitMq.consumer.Served (RabbitMq.requestOf message) before.reverse)) := by
  refine ⟨?_, ?_, ?_⟩
  · intro parse config configured fuel fuel' t o hr before config' subscription ackIds answer after ht
    have hj := (Prog.admits_iff _ _ _).1 (PubSub.start_admits hr) before _ after ht
    rw [List.append_nil] at hj
    exact hj.1 config' subscription ackIds answer rfl
  · intro sdk config configured fuel t o hr before queueUrl receiptHandle outcome after ht
    have hj := (Prog.admits_iff _ _ _).1 (Sqs.start_admits hr) before _ after ht
    rw [List.append_nil] at hj
    exact hj queueUrl receiptHandle outcome rfl
  · intro fuel t o hr before deliveryTag result after ht
    have hj := (Prog.admits_iff _ _ _).1 (RabbitMq.start_admits hr) before _ after ht
    rw [List.append_nil] at hj
    exact hj deliveryTag ⟨result, Or.inl rfl⟩

/-- A request without a correlation id whose reply goes to the queue `r`. -/
def demoMessage : RabbitMq.Message := ⟨[7], some ['r'], none⟩

def demoBefore : List RabbitMq.Event :=
  [.stopRequested false, .connect (.ok (some 3)), .setActiveSocket 3, .openChannel (.ok ()), .stopRequested false,
    .waitForSocketReadable 3 .readable, .recv 3 (.bytes [1]), .parse [1] (.calls (.received demoMessage 5)),
    .currentProcessMessage true, .processMessage [7] [some [8]] (.ok true),
    .publish ['r'] (RabbitMq.replyEnvelope demoMessage [8]) (.ok true)]

theorem acknowledged_after_success_demo :
    ∃ message, RabbitMq.Handling message 5 demoBefore.reverse ∧
      (message.body ≠ [] → RabbitMq.consumer.Served (RabbitMq.requestOf message) demoBefore.reverse) := by
  have hr : (RabbitMq.start 1).Runs (demoBefore ++ .ack 5 (.ok true) :: []) .cut := by
    refine Prog.runs_ask.2 ⟨false, rfl, ?_⟩
    refine Prog.runs_ask.2 ⟨.ok (some 3), rfl, ?_⟩
    refine Prog.runs_ask.2 ⟨(), rfl, ?_⟩
    refine Prog.runs_ask.2 ⟨.ok (), rfl, ?_⟩
    refine Prog.runs_ask.2 ⟨false, rfl, ?_⟩
    refine Prog.runs_ask.2 ⟨.readable, rfl, ?_⟩
    refine Prog.runs_ask.2 ⟨.bytes [1], rfl, ?_⟩
    refine Prog.runs_ask.2 ⟨.calls (.received demoMessage 5), rfl, ?_⟩
    refine Prog.runs_ask.2 ⟨true, rfl, ?_⟩
    refine Prog.runs_ask.2 ⟨([some [8]], .ok true), rfl, ?_⟩
    refine Prog.runs_ask.2 ⟨.ok true, rfl, ?_⟩
    refine Prog.runs_ask.2 ⟨.ok true, rfl, ?_⟩
    exact ⟨rfl, rfl⟩
  exact acknowledged_after_success.2.2 1 _ _ hr demoBefore 5 (.ok true) [] rfl

end Graftcode
