import Graftcode.PendingWaits
import Graftcode.RabbitMqClient
/-!
# RabbitMqRpc — clients, their links and consumers around the broker

The whole transport: processes with any number of clients, each with any number of calls and of links, one I/O thread a
link, and any number of consumers, every one of them the program of its own module.  An execution is one trace of all
their events.  The broker may lose, delay, reorder, duplicate and redeliver.  What it delivers was published to the queue
it is consumed from, and a name it makes up is that of one queue only (`Delivers`).
-/
namespace Graftcode
namespace RabbitMq
namespace Rpc

open RpcClient (ClientEvent)
open PendingReplies (finishFor WaitResult SlotRef Waiting Wiring)

/-- An event of a client's thread, or of a consumer. -/
inductive RpcEvent where
  | client (event : ClientEvent)
  | server (event : Event)

/-- The threads: a call, the I/O thread of a client's link, a client's destructor, and a consumer. -/
inductive Actor (Call Client Server : Type) where
  | call (k : Call)
  | io (c : Client) (link : Nat)
  | destructor (c : Client)
  | server (s : Server)
  deriving DecidableEq

/-- Who calls what, and from which process. -/
structure Deployment (Process Call Client Server : Type) where
  process : Client → Process
  client : Client → RabbitMqClientConfig
  queue : Server → Text
  owner : Call → Client
  payload : Call → Option Bytes
  payloadSize : Call → Nat

variable {Process Call Client Server : Type}

namespace Deployment

variable (D : Deployment Process Call Client Server)

def config (k : Call) : RabbitMqClientConfig := D.client (D.owner k)

def request (k : Call) : Bytes := requestBytes (D.payload k) (D.payloadSize k)

/-- The client a thread belongs to. -/
def clientOf : Actor Call Client Server → Option Client
  | .call k       => some (D.owner k)
  | .io c _       => some c
  | .destructor c => some c
  | .server _     => none

/-- The map a thread works on. -/
def wiring : Wiring (Actor Call Client Server) RpcEvent Client where
  clientOf := D.clientOf
  event event := .client (.pending event)
  event?
    | .client (.pending event) => some event
    | _                        => none
  event?_iff e x := by
    rcases e with e | e
    · cases e <;> simp
    · simp

/-- What a thread of the process drew, and from which count. -/
def drawn [DecidableEq Process] (p : Process) (x : Actor Call Client Server × RpcEvent) : Option (Reading × UInt64) :=
  match x.2 with
  | .client (.buildCorrelationId reading sequence) =>
    if (D.clientOf x.1).map D.process = some p then some (reading, sequence) else none
  | _ => none

end Deployment

section Trace

variable (t : List (Actor Call Client Server × RpcEvent))

/-- Somebody published it, whatever came of that. -/
inductive Published : Actor Call Client Server → Text → Envelope → Prop where
  | request (k : Call) (link : Nat) (routingKey : Text) (envelope : Envelope) (result : Except Exn Bool)
      (sent : (.call k, .client (.publish link routingKey envelope result)) ∈ t) : Published (.call k) routingKey envelope
  | reply (s : Server) (routingKey : Text) (envelope : Envelope) (result : Except Exn Bool)
      (sent : (.server s, .server (.publish routingKey envelope result)) ∈ t) : Published (.server s) routingKey envelope

/-- The broker made the name up for the reply queue of the link. -/
def Declared (c : Client) (link : Nat) (name : Text) : Prop :=
  ∃ pendingBytes, (Actor.io c link, RpcEvent.client (.parse pendingBytes (.calls (.declared name)))) ∈ t

/-- A reply came in on the link. -/
def Replied (c : Client) (link : Nat) (message : Message) (deliveryTag : Nat) : Prop :=
  ∃ pendingBytes, (Actor.io c link, RpcEvent.client (.parse pendingBytes (.calls (.received message deliveryTag)))) ∈ t

def Requested (s : Server) (message : Message) (deliveryTag : Nat) : Prop :=
  ∃ pendingBytes, (Actor.server s, RpcEvent.server (.parse pendingBytes (.calls (.received message deliveryTag)))) ∈ t

/-- The broker forges nothing and alters nothing; a name it makes up is that of no other queue. -/
structure Delivers (D : Deployment Process Call Client Server) : Prop where
  requests : ∀ s message deliveryTag, Requested t s message deliveryTag →
    ∃ a envelope, Published t a (D.queue s) envelope ∧ message = envelope.delivered
  replies : ∀ c link message deliveryTag, Replied t c link message deliveryTag →
    ∃ a name envelope, (Actor.io c link, RpcEvent.client (.consume name (.ok ()))) ∈ t ∧ Published t a name envelope ∧
      message = envelope.delivered
  unique : ∀ c link c' link' name, Declared t c link name → Declared t c' link' name → c = c' ∧ link = link'
  unconfigured : ∀ c link name, Declared t c link name → ∀ c', (D.client c').queue ≠ name

end Trace

variable [DecidableEq Process] [DecidableEq Call] [DecidableEq Client] [DecidableEq Server]

/-- An execution, and what each call has come to.  `replyQueue_` is empty until the I/O thread of the link stores one. -/
structure Execution (D : Deployment Process Call Client Server) (t : List (Actor Call Client Server × RpcEvent))
    (outcome : Call → Outcome Exn Bytes) : Prop where
  calls : ∀ k, ((RpcClient.callClient (D.config k) (D.payload k) (D.payloadSize k)).under RpcEvent.client).Runs
    (ofActor (.call k) t) (outcome k)
  links : ∀ c link, ∃ fuel o, ((RpcClient.run link fuel).under RpcEvent.client).Runs (ofActor (.io c link) t) o
  destructors : ∀ c, ∃ o, (RpcClient.destroyClient.under RpcEvent.client).Runs (ofActor (.destructor c) t) o
  servers : ∀ s, ∃ fuel o, ((start fuel).under RpcEvent.server).Runs (ofActor (.server s) t) o
  maps : ∀ c, ∃ (actions : List (PendingReplies.Action Call)) (state : PendingReplies.State Call),
    Machine.run PendingReplies.step .init actions = some (state, D.wiring.events c t)
  replyQueues : ∀ k link name, (Actor.call k, RpcEvent.client (.replyQueueLoaded link name)) ∈ t →
    name = [] ∨ (Actor.io (D.owner k) link, RpcEvent.client (.replyQueueStored name)) ∈ t
  counters : ∀ p, Counted buildCorrelationId (D.drawn p) t
  delivers : Delivers t D

/-- No counter has wrapped. -/
def Unwrapped (D : Deployment Process Call Client Server) (t : List (Actor Call Client Server × RpcEvent)) : Prop :=
  ∀ p, (t.filterMap (D.drawn p)).length ≤ 2 ^ 64

/-- No other call of the process drew the id. -/
def Deployment.DrewAlone (D : Deployment Process Call Client Server) (t : List (Actor Call Client Server × RpcEvent))
    (k : Call) (id : Text) : Prop :=
  ∀ k' reading sequence, D.process (D.owner k') = D.process (D.owner k) →
    (Actor.call k', RpcEvent.client (.buildCorrelationId reading sequence)) ∈ t →
      buildCorrelationId reading sequence = id → k' = k

/-! ## What a consumer publishes -/

/-- A consumer publishes a reply only to a request it received, with what the handler has just written, where the request
says. -/
def Answers (h : List Event) (e : Event) : Prop :=
  ∀ routingKey envelope result, e = .publish routingKey envelope result → ∃ pendingBytes message deliveryTag writes earlier,
    .parse pendingBytes (.calls (.received message deliveryTag)) ∈ h ∧ h = processed message.body writes :: earlier ∧
      replyToOf message = some routingKey ∧ envelope = replyEnvelope message (responseOf writes)

section Server

variable {h : List Event}

theorem answers_of_ne {e : Event} (he : ∀ routingKey envelope result, e ≠ .publish routingKey envelope result) :
    Answers h e := fun _ _ _ heq => absurd heq (he _ _ _)

theorem keeps_ack (deliveryTag : Nat) : Prog.Keeps (fun _ _ => True) Answers (ack deliveryTag) h :=
  Prog.keeps_call_bind (fun _ => answers_of_ne (by simp)) fun _ => trivial

theorem keeps_reject (deliveryTag : Nat) (requeue : Bool) :
    Prog.Keeps (fun _ _ => True) Answers (reject deliveryTag requeue) h :=
  Prog.keeps_call_bind (fun _ => answers_of_ne (by simp)) fun _ => trivial

theorem keeps_publishResponse {message : Message} {deliveryTag : Nat} {pendingBytes : Bytes} {writes : List (Option Bytes)}
    (hm : .parse pendingBytes (.calls (.received message deliveryTag)) ∈ h) :
    Prog.Keeps (fun _ _ => True) Answers (publishResponseIfRequested message (responseOf writes))
      (processed message.body writes :: h) := by
  unfold publishResponseIfRequested
  cases hto : replyToOf message with
  | none => trivial
  | some replyTo =>
    refine Prog.keeps_call_bind (fun result => ?_) fun published => ?_
    · intro routingKey envelope result' heq
      cases heq
      exact ⟨pendingBytes, message, deliveryTag, writes, h, List.mem_cons_of_mem _ hm, rfl, hto, rfl⟩
    · cases published <;> trivial

theorem keeps_processDelivery {message : Message} {deliveryTag : Nat} {pendingBytes : Bytes}
    (hm : .parse pendingBytes (.calls (.received message deliveryTag)) ∈ h) :
    Prog.Keeps (fun _ _ => True) Answers (processDelivery message deliveryTag) h := by
  refine Prog.Safe.keeps_tryCatch ?_ fun _ _ => trivial
  refine Prog.keeps_emit_bind (fun _ => answers_of_ne (by simp)) fun configured => ?_
  cases configured with
  | false => trivial
  | true =>
    simp only [Bool.not_true, Bool.false_eq_true, if_false, processMessage, Prog.safe_bind, Prog.safe_emit,
      Prog.andThen_ok, Prog.safe_ofExcept]
    rintro ⟨writes, result⟩ -
    refine ⟨answers_of_ne (by simp), ?_⟩
    rcases result with e | processed
    · trivial
    cases processed with
    | false => trivial
    | true =>
      refine (keeps_publishResponse (List.mem_cons_of_mem _ hm)).keeps_bind fun published _ _ => ?_
      cases published with
      | false => exact keeps_reject deliveryTag true
      | true => exact keeps_ack deliveryTag

theorem keeps_onCallback {callback : Callback} {pendingBytes : Bytes} (hc : .parse pendingBytes (.calls callback) ∈ h) :
    Prog.Keeps (fun _ _ => True) Answers (onCallback callback) h := by
  cases callback with
  | received message deliveryTag =>
    refine Prog.Safe.keeps_bind (Q := fun _ _ => True) ?_ fun _ _ _ => trivial
    unfold onReceived
    split
    · exact keeps_ack deliveryTag
    · exact keeps_processDelivery hc
  | _ => trivial

theorem keeps_parse (pendingBytes : Bytes) (fuel : Nat) (closed : Bool) :
    Prog.Keeps (fun _ _ => True) Answers (parse pendingBytes fuel closed) h := by
  refine Prog.keeps_iterate (fun closed h => ?_) fuel closed h
  refine Prog.keeps_emit_bind (fun _ => answers_of_ne (by simp)) fun next => ?_
  cases next with
  | returns parsed => trivial
  | throws e => trivial
  | calls callback => exact (keeps_onCallback List.mem_cons_self).keeps_bind fun _ _ _ => trivial

theorem keeps_parsePending (fuel n : Nat) (state : Runtime) :
    Prog.Keeps (fun _ _ => True) Answers (parsePending fuel n state) h := by
  refine Prog.keeps_iterate (fun state h => ?_) n state h
  split
  · trivial
  refine (keeps_parse state.pendingBytes fuel state.connectionClosed).keeps_bind fun parsed _ _ => ?_
  dsimp only
  split <;> trivial

theorem keeps_socketError (text : String) (errno : Text) (state : Runtime) :
    Prog.Keeps (fun _ _ => True) Answers (socketError text errno state) h := by
  refine Prog.keeps_emit_bind (fun _ => answers_of_ne (by simp)) fun stop => ?_
  cases stop <;> trivial

theorem keeps_receive (socket : Socket) (fuel n : Nat) (state : Runtime) :
    Prog.Keeps (fun _ _ => True) Answers (receive socket fuel n state) h := by
  refine Prog.keeps_iterate (fun state h => ?_) n state h
  refine Prog.keeps_emit_bind (fun _ => answers_of_ne (by simp)) fun stop => ?_
  split
  · trivial
  refine Prog.keeps_emit_bind (fun _ => answers_of_ne (by simp)) fun status => ?_
  cases status with
  | timeout => trivial
  | error errno => exact keeps_socketError _ _ _
  | readable =>
    refine Prog.keeps_emit_bind (fun _ => answers_of_ne (by simp)) fun received => ?_
    cases received with
    | closed => trivial
    | wouldBlock => trivial
    | error errno => exact keeps_socketError _ _ _
    | bytes chunk => exact (keeps_parsePending fuel fuel _).keeps_bind fun _ _ _ => trivial

theorem keeps_forget (socket : Socket) : Prog.Keeps (fun _ _ => True) Answers (forget socket) h :=
  Prog.keeps_emit_bind (fun _ => answers_of_ne (by simp)) fun _ => Prog.keeps_emit fun _ => answers_of_ne (by simp)

theorem keeps_consume (socket : Socket) (fuel : Nat) : Prog.Keeps (fun _ _ => True) Answers (consume socket fuel) h := by
  refine Prog.keeps_emit_bind (fun _ => answers_of_ne (by simp)) fun _ => ?_
  refine Prog.keeps_call_bind (fun _ => answers_of_ne (by simp)) fun _ => ?_
  refine (keeps_receive socket fuel fuel {}).keeps_bind fun state _ _ => ?_
  split
  · exact Prog.keeps_call_bind (fun _ => answers_of_ne (by simp)) fun _ => keeps_forget socket
  · exact keeps_forget socket

theorem keeps_connectAndConsume (fuel : Nat) : Prog.Keeps (fun _ _ => True) Answers (connectAndConsume fuel) h := by
  refine Prog.Safe.keeps_bind (Q := fun _ _ => True)
    (Prog.Safe.keeps_attempt (Prog.keeps_call fun _ => answers_of_ne (by simp))) fun socket h _ => ?_
  rcases socket with - | socket
  · trivial
  rcases socket with - | socket
  · trivial
  refine (keeps_consume socket fuel).keeps_attempt.keeps_bind fun ended h _ => ?_
  split
  · exact keeps_forget socket
  · trivial

/-- **What a consumer keeps to** when it publishes. -/
theorem keeps_start (fuel : Nat) : Prog.Keeps (fun _ _ => True) Answers (start fuel) [] := by
  refine Prog.Safe.keeps_tryCatch ?_ fun _ _ => trivial
  refine Prog.Safe.keeps_bind (Q := fun _ _ => True) ?_ fun _ _ _ => Prog.keeps_emit fun _ => answers_of_ne (by simp)
  refine Prog.keeps_iterate (fun _ h => ?_) fuel () []
  refine Prog.keeps_emit_bind (fun _ => answers_of_ne (by simp)) fun stop => ?_
  split
  · trivial
  exact (keeps_connectAndConsume fuel).keeps_bind fun _ _ _ => trivial

end Server

/-! ## What the threads of an execution keep to -/

section Run

variable {D : Deployment Process Call Client Server} {t : List (Actor Call Client Server × RpcEvent)}
  {outcome : Call → Outcome Exn Bytes}

theorem client_injective : Function.Injective RpcEvent.client := fun _ _ h => RpcEvent.client.inj h

theorem server_injective : Function.Injective RpcEvent.server := fun _ _ h => RpcEvent.server.inj h

theorem Execution.call_at (hx : Execution D t outcome) {k : Call} {e : ClientEvent}
    {before after : List (Actor Call Client Server × RpcEvent)} (ht : t = before ++ (.call k, .client e) :: after) :
    ∃ h, (PendingReplies.CallsOnce ClientEvent.pending RpcClient.Drew h e ∧
        RpcClient.PublishesOwn (D.config k) (D.payload k) (D.payloadSize k) h e) ∧
      ∀ x, x ∈ h ↔ (.call k, .client x) ∈ before := by
  obtain ⟨h, hd, -, hm⟩ := discipline_under client_injective (RpcClient.safe_callClient.and RpcClient.keeps_callClient)
    (hx.calls k) ht
  exact ⟨h, hd, hm⟩

theorem Execution.link_at (hx : Execution D t outcome) {c : Client} {link : Nat} {e : ClientEvent}
    {before after : List (Actor Call Client Server × RpcEvent)} (ht : t = before ++ (.io c link, .client e) :: after) :
    ∃ h, RpcClient.RunDiscipline h e ∧ ∀ x, x ∈ h ↔ (.io c link, .client x) ∈ before := by
  obtain ⟨fuel, o, hr⟩ := hx.links c link
  obtain ⟨h, hd, -, hm⟩ := discipline_under client_injective (RpcClient.keeps_run link fuel) hr ht
  exact ⟨h, hd, hm⟩

theorem Execution.server_at (hx : Execution D t outcome) {s : Server} {e : Event}
    {before after : List (Actor Call Client Server × RpcEvent)} (ht : t = before ++ (.server s, .server e) :: after) :
    ∃ h, Answers h e ∧ ofActor (.server s) before = h.reverse.map RpcEvent.server ∧
      ∀ x, x ∈ h ↔ (.server s, .server x) ∈ before := by
  obtain ⟨fuel, o, hr⟩ := hx.servers s
  exact discipline_under server_injective (keeps_start fuel) hr ht

theorem Execution.destructor_event (hx : Execution D t outcome) {c : Client} {e : ClientEvent}
    (hm : (Actor.destructor c, RpcEvent.client e) ∈ t) : e = .pending (.closed RpcClient.shuttingDown) := by
  obtain ⟨o, hr⟩ := hx.destructors c
  have hsafe : RpcClient.destroyClient.Safe (fun _ _ => True) (fun _ e => e = .pending (.closed RpcClient.shuttingDown))
      (fun _ _ => True) [] := fun _ _ => ⟨rfl, trivial⟩
  obtain ⟨before, after, ht⟩ := List.append_of_mem hm
  obtain ⟨h, hd, -⟩ := discipline_under client_injective hsafe hr ht
  exact hd

/-- A queue name that was stored or consumed from is one the broker made up for that link. -/
theorem Execution.declared_of_stored (hx : Execution D t outcome) {c : Client} {link : Nat} {name : Text}
    (hm : (Actor.io c link, RpcEvent.client (.replyQueueStored name)) ∈ t) : Declared t c link name := by
  obtain ⟨before, after, ht⟩ := List.append_of_mem hm
  obtain ⟨h, hd, hmem⟩ := hx.link_at ht
  obtain ⟨pendingBytes, hp⟩ := hd.stores name rfl
  refine ⟨pendingBytes, ?_⟩
  rw [ht]
  exact List.mem_append_left _ ((hmem _).1 hp)

theorem Execution.declared_of_consumed (hx : Execution D t outcome) {c : Client} {link : Nat} {name : Text}
    {result : Except Exn Unit} (hm : (Actor.io c link, RpcEvent.client (.consume name result)) ∈ t) :
    Declared t c link name := by
  obtain ⟨before, after, ht⟩ := List.append_of_mem hm
  obtain ⟨h, hd, hmem⟩ := hx.link_at ht
  obtain ⟨pendingBytes, hp⟩ := hd.consumes name result rfl
  refine ⟨pendingBytes, ?_⟩
  rw [ht]
  exact List.mem_append_left _ ((hmem _).1 hp)

/-- **An id tells its call**, among those of one process. -/
theorem Execution.drawn_once (hx : Execution D t outcome) (hu : Unwrapped D t) {k k' : Call} {reading reading' : Reading}
    {sequence sequence' : UInt64} (hsame : D.process (D.owner k) = D.process (D.owner k'))
    (hm : (Actor.call k, RpcEvent.client (.buildCorrelationId reading sequence)) ∈ t)
    (hm' : (Actor.call k', RpcEvent.client (.buildCorrelationId reading' sequence')) ∈ t)
    (heq : buildCorrelationId reading sequence = buildCorrelationId reading' sequence') : k = k' := by
  have hd : D.drawn (D.process (D.owner k)) (.call k, .client (.buildCorrelationId reading sequence)) =
      some (reading, sequence) := by simp [Deployment.drawn, Deployment.clientOf]
  have hd' : D.drawn (D.process (D.owner k)) (.call k', .client (.buildCorrelationId reading' sequence')) =
      some (reading', sequence') := by simp [Deployment.drawn, Deployment.clientOf, hsame]
  have hone := (hx.counters _).once (counted_sequence _) (hu _) hm hm' hd hd' heq
  exact Actor.call.inj (Prod.mk.inj hone).1

/-- **The threads of a client wait as they have to**: once, and on a slot of their own. -/
theorem Execution.waiting (hx : Execution D t outcome) : Waiting Call D.wiring t where
  maps := hx.maps
  waits before a after slot r c ha ht := by
    cases a with
    | call k =>
      obtain ⟨h, hd, hmem⟩ := hx.call_at ht
      obtain ⟨⟨id, hreg⟩, hun⟩ := hd.1.waits slot r rfl
      exact ⟨⟨id, (hmem _).1 hreg⟩, fun slot' r' hw => hun slot' r' ((hmem _).2 hw)⟩
    | io c' link =>
      obtain ⟨h, hd, -⟩ := hx.link_at ht
      cases hd.finishes _ rfl
    | destructor c' =>
      have hm : (Actor.destructor c', RpcEvent.client (.pending (.waited slot r))) ∈ t := by
        rw [ht]
        simp [Deployment.wiring]
      cases hx.destructor_event hm
    | server s => cases ha

/-- What finishes an id with bytes is a link's I/O thread, with a reply it received and acknowledged. -/
theorem Execution.completes (hx : Execution D t outcome) {c : Client} {a : Actor Call Client Server}
    {x : PendingReplies.Event} {id : Text} {bytes : Bytes} (ha : D.clientOf a = some c)
    (hm : (a, RpcEvent.client (.pending x)) ∈ t) (hr : finishFor id x = some (.returned bytes)) :
    ∃ link message deliveryTag, Replied t c link message deliveryTag ∧ message.correlationID = some id ∧
      message.body = bytes ∧ ∃ acked, (Actor.io c link, RpcEvent.client (.ack deliveryTag (.ok acked))) ∈ t := by
  cases a with
  | call k =>
    obtain ⟨before, after, ht⟩ := List.append_of_mem hm
    obtain ⟨h, hd, -⟩ := hx.call_at ht
    rw [hd.1.finishes x id rfl] at hr
    cases hr
  | io c' link =>
    obtain rfl : c' = c := Option.some.inj ha
    obtain ⟨before, after, ht⟩ := List.append_of_mem hm
    have hin : ∀ {e : RpcEvent}, (Actor.io c' link, e) ∈ before → (Actor.io c' link, e) ∈ t := fun hb => by
      rw [ht]
      exact List.mem_append_left _ hb
    obtain ⟨h, hd, hmem⟩ := hx.link_at ht
    cases hd.finishes x rfl with
    | reply message deliveryTag pendingBytes id' found hreceived hacked hown =>
      simp only [finishFor, Option.ite_none_right_eq_some, Option.some.injEq, WaitResult.returned.injEq] at hr
      obtain ⟨rfl, rfl⟩ := hr
      obtain ⟨acked, hacked⟩ := hacked
      exact ⟨link, message, deliveryTag, ⟨pendingBytes, hin ((hmem _).1 hreceived)⟩, hown, rfl, acked,
        hin ((hmem _).1 hacked)⟩
    | disconnected error hbroken => simp [finishFor] at hr
  | destructor c' =>
    cases hx.destructor_event hm
    simp [finishFor] at hr
  | server s => cases ha

/-! ### What is published -/

/-- The answer of a consumer's handler that succeeded on `payload`, published for `id` to the queue `name`. -/
def AnsweredBy (t : List (Actor Call Client Server × RpcEvent)) (s : Server) (payload : Bytes) (id name : Text)
    (bytes : Bytes) : Prop :=
  ∃ before writes envelope result after, bytes = responseOf writes ∧ envelope.body = bytes ∧
    envelope.correlationID = some id ∧
    ofActor (.server s) t = before ++ .server (processed payload writes) :: .server (.publish name envelope result) :: after

theorem callEnvelope_eq {queue replyQueue correlationId : Text} {payload : Option Bytes} {payloadSize : Nat}
    {envelope : Envelope} (h : callEnvelope queue replyQueue correlationId payload payloadSize = .ok envelope) :
    envelope.body = requestBytes payload payloadSize ∧ envelope.correlationID = some correlationId ∧
      envelope.replyTo = some replyQueue := by
  unfold callEnvelope at h
  split at h
  · cases h
  split at h
  · cases h
  cases h
  exact ⟨rfl, rfl, rfl⟩

/-- A call publishes to its own queue, and asks for the reply on the queue of the link it publishes on. -/
theorem Execution.call_publishes (hx : Execution D t outcome) {k : Call} {link : Nat} {routingKey : Text}
    {envelope : Envelope} {result : Except Exn Bool}
    (hm : (Actor.call k, RpcEvent.client (.publish link routingKey envelope result)) ∈ t) :
    routingKey = (D.config k).queue ∧ ∃ reading sequence name,
      (Actor.call k, RpcEvent.client (.buildCorrelationId reading sequence)) ∈ t ∧
        (name ≠ [] → Declared t (D.owner k) link name) ∧ envelope.body = D.request k ∧
        envelope.correlationID = some (buildCorrelationId reading sequence) ∧
        envelope.replyTo = some name := by
  obtain ⟨before, after, ht⟩ := List.append_of_mem hm
  have hin : ∀ {e : RpcEvent}, (Actor.call k, e) ∈ before → (Actor.call k, e) ∈ t := fun hb => by
    rw [ht]
    exact List.mem_append_left _ hb
  obtain ⟨h, hd, hmem⟩ := hx.call_at ht
  obtain ⟨hkey, id, name, ⟨reading, sequence, hdrew, rfl⟩, hloaded, henvelope⟩ := hd.2 link routingKey envelope result rfl
  obtain ⟨hbody, hid, hreply⟩ := callEnvelope_eq henvelope
  have hstored := hx.replyQueues k link name (hin ((hmem _).1 hloaded))
  exact ⟨hkey, reading, sequence, name, hin ((hmem _).1 hdrew), fun hne => hx.declared_of_stored (hstored.resolve_left hne),
    hbody, hid, hreply⟩

theorem replyToOf_eq_some {message : Message} {name : Text} (h : replyToOf message = some name) :
    message.replyTo = some name ∧ name ≠ [] := by
  obtain ⟨hto, hne⟩ := Option.filter_eq_some_iff.1 h
  exact ⟨hto, by simpa using hne⟩

/-- A request that names where to reply was published by a call, which wants the reply on a link of its own client. -/
theorem Execution.request_of_received (hx : Execution D t outcome) {s : Server} {message : Message} {deliveryTag : Nat}
    {name : Text} (hm : Requested t s message deliveryTag) (hto : replyToOf message = some name) :
    ∃ k link reading sequence, (Actor.call k, RpcEvent.client (.buildCorrelationId reading sequence)) ∈ t ∧
      Declared t (D.owner k) link name ∧ message.body = D.request k ∧
      message.correlationID = some (buildCorrelationId reading sequence) := by
  obtain ⟨a, envelope, hpublished, rfl⟩ := hx.delivers.requests s message deliveryTag hm
  obtain ⟨hreply, hne⟩ := replyToOf_eq_some hto
  rw [Envelope.delivered] at hreply
  generalize D.queue s = key at hpublished
  cases hpublished with
  | request k link routingKey envelope result hin =>
    obtain ⟨-, reading, sequence, name', hdrew, hdeclared, hbody, hid, hto'⟩ := hx.call_publishes hin
    rw [hto'] at hreply
    obtain rfl := Option.some.inj hreply
    exact ⟨k, link, reading, sequence, hdrew, hdeclared hne, hbody, hid⟩
  | reply s' routingKey envelope result hin =>
    obtain ⟨before, after, ht⟩ := List.append_of_mem hin
    obtain ⟨h, hd, -, -⟩ := hx.server_at ht
    obtain ⟨pendingBytes, message', deliveryTag', writes, earlier, -, -, -, rfl⟩ := hd _ _ _ rfl
    cases hreply

/-- What a consumer's handler wrote, in a run that succeeded, on the payload of a call of the client `c`, published for
the id that this call drew to the reply queue of the link. -/
def Own (D : Deployment Process Call Client Server) (t : List (Actor Call Client Server × RpcEvent)) (c : Client)
    (link : Nat) (message : Message) : Prop :=
  ∃ k reading sequence s name, D.owner k = c ∧ (Actor.call k, RpcEvent.client (.buildCorrelationId reading sequence)) ∈ t ∧
    message.correlationID = some (buildCorrelationId reading sequence) ∧ Declared t c link name ∧
    AnsweredBy t s (D.request k) (buildCorrelationId reading sequence) name message.body

/-- A link receives only answers to its own client's calls. -/
theorem Execution.receives (hx : Execution D t outcome) {c : Client} {link : Nat} {message : Message} {deliveryTag : Nat}
    (hm : Replied t c link message deliveryTag) : Own D t c link message := by
  obtain ⟨a, name, envelope, hconsume, hpublished, rfl⟩ := hx.delivers.replies c link message deliveryTag hm
  have hdeclared := hx.declared_of_consumed hconsume
  cases hpublished with
  | request k link' routingKey envelope result hin =>
    obtain ⟨hkey, -⟩ := hx.call_publishes hin
    exact absurd hkey.symm (hx.delivers.unconfigured c link _ hdeclared (D.owner k))
  | reply s routingKey envelope result hin =>
    obtain ⟨before, after, ht⟩ := List.append_of_mem hin
    obtain ⟨h, hd, hbefore, hmem⟩ := hx.server_at ht
    obtain ⟨pendingBytes, request, deliveryTag', writes, earlier, hreceived, hh, hto, rfl⟩ := hd _ _ _ rfl
    have hrequested : Requested t s request deliveryTag' := by
      refine ⟨pendingBytes, ?_⟩
      rw [ht]
      exact List.mem_append_left _ ((hmem _).1 hreceived)
    obtain ⟨k, link', reading, sequence, hdrew, hdeclared', hbody, hid⟩ := hx.request_of_received hrequested hto
    obtain ⟨howner, -⟩ := hx.delivers.unique _ _ _ _ _ hdeclared' hdeclared
    refine ⟨k, reading, sequence, s, name, howner, hdrew, hid, hdeclared, earlier.reverse.map RpcEvent.server, writes,
      _, result, ofActor (.server s) after, rfl, rfl, hid, ?_⟩
    rw [ht, ofActor_append, ofActor_cons_self, hbefore, hh, hbody]
    simp

/-- A call returns an answer to its own payload. -/
theorem Execution.returns (hx : Execution D t outcome) (hu : Unwrapped D t) {k : Call} {bytes : Bytes}
    (hret : outcome k = .done bytes) :
    ∃ reading sequence s link name, (Actor.call k, RpcEvent.client (.buildCorrelationId reading sequence)) ∈ t ∧
      D.DrewAlone t k (buildCorrelationId reading sequence) ∧ Declared t (D.owner k) link name ∧
      AnsweredBy t s (D.request k) (buildCorrelationId reading sequence) name bytes ∧
      ∃ deliveryTag acked, (Actor.io (D.owner k) link, RpcEvent.client (.ack deliveryTag (.ok acked))) ∈ t := by
  -- the call has waited for what it returns
  obtain ⟨u, hu', hr⟩ := Prog.runs_under.1 (hx.calls k)
  rw [hret] at hr
  obtain ⟨slot, hm⟩ := RpcClient.safe_callClient.post hr (Prog.admits_true _ _) bytes rfl
  have hmem : (Actor.call k, RpcEvent.client (.pending (.waited slot (.returned bytes)))) ∈ t := by
    rw [← mem_ofActor, hu']
    exact List.mem_map_of_mem (by simpa using hm)
  obtain ⟨before, after, ht⟩ := List.append_of_mem hmem
  obtain ⟨id, pre, mid, rfl, hout⟩ := hx.waiting.outcome (a := .call k) (c := D.owner k) rfl ht
  -- for an id it drew
  have hreg : t = pre ++ (.call k, .client (.pending (.registered id slot))) ::
      (mid ++ (.call k, .client (.pending (.waited slot (.returned bytes)))) :: after) := by
    rw [ht]
    simp [Deployment.wiring]
  obtain ⟨h, hd, hmemh⟩ := hx.call_at hreg
  obtain ⟨reading, sequence, hdrew, rfl⟩ := hd.1.registers id slot rfl
  have hdrew : (Actor.call k, RpcEvent.client (.buildCorrelationId reading sequence)) ∈ t := by
    rw [hreg]
    exact List.mem_append_left _ ((hmemh _).1 hdrew)
  -- which the I/O thread of a link of its client finished, with an answer to a call that drew it too
  rcases PendingReplies.outcome_cases hout with ⟨hno, -⟩ | ⟨-, a, x, ha, hx', hfin⟩
  · cases hno
  have hin : (a, RpcEvent.client (.pending x)) ∈ t := by
    rw [hreg]
    simp only [List.mem_append, List.mem_cons]
    exact Or.inr (Or.inr (Or.inl hx'))
  obtain ⟨link, message, deliveryTag, hreplied, hown, rfl, acked, hacked⟩ := hx.completes ha hin hfin
  obtain ⟨k', reading', sequence', s, name, howner, hdrew', hown', hdeclared, hanswered⟩ := hx.receives hreplied
  have hid : buildCorrelationId reading' sequence' = buildCorrelationId reading sequence := by
    rw [hown'] at hown
    exact Option.some.inj hown
  obtain rfl : k' = k := hx.drawn_once hu (congrArg D.process howner) hdrew' hdrew hid
  rw [hid] at hanswered
  have halone : D.DrewAlone t k' (buildCorrelationId reading sequence) := fun _ _ _ hprocess hm heq =>
    hx.drawn_once hu hprocess hm hdrew heq
  exact ⟨reading, sequence, s, link, name, hdrew, halone, hdeclared, hanswered, deliveryTag, acked, hacked⟩

/-- **End-to-end correctness**: whatever the reply consumer of a link is handed answers a call of that link's own client,
and what a call returns is what some consumer's handler wrote, in a run that succeeded, on that call's payload; it was
published for the id that this call alone in its process drew, to the reply queue of a link of its client, and acknowledged
there. -/
theorem answers_reach_their_link (hx : Execution D t outcome) (hu : Unwrapped D t) :
    (∀ c link message deliveryTag, Replied t c link message deliveryTag → Own D t c link message) ∧
      ∀ k bytes, outcome k = .done bytes →
        ∃ reading sequence s link name, (Actor.call k, RpcEvent.client (.buildCorrelationId reading sequence)) ∈ t ∧
          D.DrewAlone t k (buildCorrelationId reading sequence) ∧ Declared t (D.owner k) link name ∧
          AnsweredBy t s (D.request k) (buildCorrelationId reading sequence) name bytes ∧
          ∃ deliveryTag acked, (Actor.io (D.owner k) link, RpcEvent.client (.ack deliveryTag (.ok acked))) ∈ t :=
  ⟨fun _ _ _ _ hm => hx.receives hm, fun _ _ hret => hx.returns hu hret⟩

end Run

/-! ### An execution -/

section Demo

def demo : Deployment Unit Unit Unit Unit where
  process _ := ()
  client _ := { queue := ['q'] }
  queue _ := ['q']
  owner _ := ()
  payload _ := some [7]
  payloadSize _ := 1

def demoReading : Reading := ⟨['1'], 5⟩

def demoId : Text := buildCorrelationId demoReading 0

def demoRequest : Envelope := ⟨[7], "application/octet-stream".toList, some demoId, some ['g']⟩

def demoReply : Envelope := replyEnvelope demoRequest.delivered [8]

def demoSetUp : List ClientEvent :=
  [.stoppingLoaded false, .brokenLoaded 0 false, .connectionErrorLoaded false, .connectionClosedLoaded false,
    .waitForSocketReadable .readable, .recv (.bytes [1]), .parse [1] (.calls (.declared ['g'])), .replyQueueStored ['g'],
    .consume ['g'] (.ok ()), .parse [1] (.calls .consuming), .consumerReadyStored]

def demoCall : List ClientEvent :=
  [.currentLink (.ok 0), .buildCorrelationId demoReading 0, .pending (.registered demoId 0), .brokenLoaded 0 false,
    .replyQueueLoaded 0 ['g'], .publish 0 ['q'] demoRequest (.ok true)]

def demoServe : List Event :=
  [.stopRequested false, .connect (.ok (some 5)), .setActiveSocket 5, .openChannel (.ok ()), .stopRequested false,
    .waitForSocketReadable 5 .readable, .recv 5 (.bytes [1]), .parse [1] (.calls (.received demoRequest.delivered 1)),
    .currentProcessMessage true, processed [7] [some [8]], .publish ['g'] demoReply (.ok true), .ack 1 (.ok true)]

def demoDispatch : List ClientEvent :=
  [.parse [1] (.calls (.received demoReply.delivered 1)), .ack 1 (.ok true), .pending (.completed demoId [8] true)]

def demoReturn : List ClientEvent := [.pending (.waited 0 (.returned [8])), .pending .destroyed]

def demoIo (e : ClientEvent) : Actor Unit Unit Unit × RpcEvent := (.io () 0, .client e)

def demoCaller (e : ClientEvent) : Actor Unit Unit Unit × RpcEvent := (.call (), .client e)

def demoServer (e : Event) : Actor Unit Unit Unit × RpcEvent := (.server (), .server e)

def demoTrace : List (Actor Unit Unit Unit × RpcEvent) :=
  demoSetUp.map demoIo ++ demoCall.map demoCaller ++ demoServe.map demoServer ++ demoDispatch.map demoIo ++
    demoReturn.map demoCaller

theorem demoCall_runs :
    (RpcClient.callClient { queue := ['q'] } (some [7]) 1).Runs (demoCall ++ demoReturn) (.done [8]) := by
  unfold RpcClient.callClient
  refine Prog.runs_ask.2 ⟨.ok 0, rfl, ?_⟩
  refine Prog.runs_ask.2 ⟨(demoReading, 0), rfl, ?_⟩
  refine Prog.runs_ask.2 ⟨.ok 0, rfl, ?_⟩
  refine Prog.runs_ask.2 ⟨false, rfl, ?_⟩
  refine Prog.runs_ask.2 ⟨['g'], rfl, ?_⟩
  refine Prog.runs_ask.2 ⟨.ok true, rfl, ?_⟩
  refine Prog.runs_ask.2 ⟨.returned [8], rfl, ?_⟩
  refine Prog.runs_ask.2 ⟨(), rfl, ?_⟩
  exact ⟨rfl, rfl⟩

theorem demoLink_runs : (RpcClient.run 0 3).Runs (demoSetUp ++ demoDispatch) .cut := by
  unfold RpcClient.run
  refine Prog.runs_ask.2 ⟨false, rfl, ?_⟩
  refine Prog.runs_ask.2 ⟨false, rfl, ?_⟩
  refine Prog.runs_ask.2 ⟨false, rfl, ?_⟩
  refine Prog.runs_ask.2 ⟨false, rfl, ?_⟩
  refine Prog.runs_ask.2 ⟨.readable, rfl, ?_⟩
  refine Prog.runs_ask.2 ⟨.bytes [1], rfl, ?_⟩
  refine Prog.runs_ask.2 ⟨.calls (.declared ['g']), rfl, ?_⟩
  refine Prog.runs_ask.2 ⟨(), rfl, ?_⟩
  refine Prog.runs_ask.2 ⟨.ok (), rfl, ?_⟩
  refine Prog.runs_ask.2 ⟨.calls .consuming, rfl, ?_⟩
  refine Prog.runs_ask.2 ⟨(), rfl, ?_⟩
  refine Prog.runs_ask.2 ⟨.calls (.received demoReply.delivered 1), rfl, ?_⟩
  refine Prog.runs_ask.2 ⟨.ok true, rfl, ?_⟩
  refine Prog.runs_ask.2 ⟨true, rfl, ?_⟩
  exact ⟨rfl, rfl⟩

theorem demoServe_runs : (start 1).Runs demoServe .cut := by
  unfold start connectAndConsume consume receive parsePending parse
  refine Prog.runs_ask.2 ⟨false, rfl, ?_⟩
  refine Prog.runs_ask.2 ⟨.ok (some 5), rfl, ?_⟩
  refine Prog.runs_ask.2 ⟨(), rfl, ?_⟩
  refine Prog.runs_ask.2 ⟨.ok (), rfl, ?_⟩
  refine Prog.runs_ask.2 ⟨false, rfl, ?_⟩
  refine Prog.runs_ask.2 ⟨.readable, rfl, ?_⟩
  refine Prog.runs_ask.2 ⟨.bytes [1], rfl, ?_⟩
  refine Prog.runs_ask.2 ⟨.calls (.received demoRequest.delivered 1), rfl, ?_⟩
  refine Prog.runs_ask.2 ⟨true, rfl, ?_⟩
  refine Prog.runs_ask.2 ⟨([some [8]], .ok true), rfl, ?_⟩
  refine Prog.runs_ask.2 ⟨.ok true, rfl, ?_⟩
  refine Prog.runs_ask.2 ⟨.ok true, rfl, ?_⟩
  exact ⟨rfl, rfl⟩

theorem demo_declared {c : Unit} {link : Nat} {name : Text} (h : Declared demoTrace c link name) :
    link = 0 ∧ name = ['g'] := by
  obtain ⟨pendingBytes, hm⟩ := h
  simp only [demoTrace, demoIo, demoCaller, demoServer, demoSetUp, demoCall, demoServe, demoDispatch, demoReturn,
    List.map_cons, List.map_nil, List.cons_append, List.nil_append, List.mem_cons, Prod.mk.injEq, reduceCtorEq,
    RpcEvent.client.injEq, ClientEvent.parse.injEq, RpcClient.Parsing.calls.injEq, RpcClient.Callback.declared.injEq,
    Actor.io.injEq, and_false, false_or, or_false, List.not_mem_nil] at hm
  exact ⟨hm.1.2, hm.2.2⟩

theorem demo_delivers : Delivers demoTrace demo where
  requests _ message deliveryTag := by
    rintro ⟨pendingBytes, hm⟩
    have heq : message = demoRequest.delivered := by
      simp only [demoTrace, demoIo, demoCaller, demoServer, demoSetUp, demoCall, demoServe, processed, demoDispatch,
        demoReturn, List.map_cons, List.map_nil, List.cons_append, List.nil_append, List.mem_cons, Prod.mk.injEq,
        reduceCtorEq, RpcEvent.server.injEq, Event.parse.injEq, Parsing.calls.injEq, Callback.received.injEq, and_false,
        false_or, or_false, List.not_mem_nil] at hm
      exact hm.2.2.1
    refine ⟨_, demoRequest, .request () 0 ['q'] demoRequest (.ok true) ?_, heq⟩
    simp [demoTrace, demoCaller, demoCall]
  replies _ link message deliveryTag := by
    rintro ⟨pendingBytes, hm⟩
    have heq : link = 0 ∧ message = demoReply.delivered := by
      simp only [demoTrace, demoIo, demoCaller, demoServer, demoSetUp, demoCall, demoServe, demoDispatch, demoReturn,
        List.map_cons, List.map_nil, List.cons_append, List.nil_append, List.mem_cons, Prod.mk.injEq, reduceCtorEq,
        RpcEvent.client.injEq, ClientEvent.parse.injEq, RpcClient.Parsing.calls.injEq,
        RpcClient.Callback.received.injEq, Actor.io.injEq, and_false, false_or, or_false, List.not_mem_nil] at hm
      exact ⟨hm.1.2, hm.2.2.1⟩
    obtain ⟨rfl, rfl⟩ := heq
    refine ⟨_, ['g'], demoReply, ?_, .reply () ['g'] demoReply (.ok true) ?_, rfl⟩
    · simp [demoTrace, demoIo, demoSetUp]
    · simp [demoTrace, demoServer, demoServe]
  unique _ link _ link' name h h' := ⟨rfl, (demo_declared h).1.trans (demo_declared h').1.symm⟩
  unconfigured _ link name h _ := by
    rw [(demo_declared h).2]
    simp [demo]

theorem demo_execution : Execution demo demoTrace fun _ => .done [8] where
  calls _ := Prog.runs_under.2 ⟨demoCall ++ demoReturn, rfl, demoCall_runs⟩
  links _ link := by
    by_cases hlink : link = 0
    · subst hlink
      exact ⟨3, .cut, Prog.runs_under.2 ⟨demoSetUp ++ demoDispatch, rfl, demoLink_runs⟩⟩
    · refine ⟨0, .cut, Prog.runs_under.2 ⟨[], ?_, rfl, rfl⟩⟩
      simp [ofActor, demoTrace, demoIo, demoCaller, demoServer, demoSetUp, demoCall, demoServe, demoDispatch, demoReturn,
        Ne.symm hlink]
  destructors _ := ⟨.cut, Prog.runs_under.2 ⟨[], rfl, Or.inl ⟨rfl, rfl⟩⟩⟩
  servers _ := ⟨1, .cut, Prog.runs_under.2 ⟨demoServe, rfl, demoServe_runs⟩⟩
  maps _ := ⟨[.register () demoId, .complete demoId [8], .wait (), .destroy ()], _, rfl⟩
  replyQueues _ link name hm := by
    have heq : link = 0 ∧ name = ['g'] := by
      simpa [demoTrace, demoIo, demoCaller, demoServer, demoSetUp, demoCall, demoServe, demoDispatch, demoReturn] using hm
    obtain ⟨rfl, rfl⟩ := heq
    simp [demoTrace, demoIo, demoCaller, demoServer, demoSetUp]
  counters _ := ⟨1, rfl⟩
  delivers := demo_delivers

theorem demo_drawn : demoTrace.filterMap (demo.drawn ()) = [(demoReading, 0)] := rfl

theorem demo_unwrapped : Unwrapped demo demoTrace := fun () => by
  rw [demo_drawn]
  decide

theorem answers_reach_their_link_demo :
    (∀ c link message deliveryTag, Replied demoTrace c link message deliveryTag → Own demo demoTrace c link message) ∧
      ∀ k bytes, Outcome.done [8] = (.done bytes : Outcome Exn Bytes) →
        ∃ reading sequence s link name,
          (Actor.call k, RpcEvent.client (.buildCorrelationId reading sequence)) ∈ demoTrace ∧
            demo.DrewAlone demoTrace k (buildCorrelationId reading sequence) ∧
            Declared demoTrace (demo.owner k) link name ∧
            AnsweredBy demoTrace s (demo.request k) (buildCorrelationId reading sequence) name bytes ∧
            ∃ deliveryTag acked,
              (Actor.io (demo.owner k) link, RpcEvent.client (.ack deliveryTag (.ok acked))) ∈ demoTrace :=
  answers_reach_their_link demo_execution demo_unwrapped

end Demo

end Rpc
end RabbitMq
end Graftcode
