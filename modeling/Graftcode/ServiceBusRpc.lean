import Graftcode.PendingWaits
import Graftcode.ServiceBusClient
/-!
# ServiceBusRpc — clients, their links and servers around the queues

The whole transport: processes with any number of clients, each with any number of calls and of links, one dispatcher a
link, and any number of servers, every one of them the program of its own module.  An execution is one trace of all their
events.  The bus may lose, delay, reorder, duplicate and redeliver.  What it delivers was sent to where it is received, and
a receiver with a session filter gets only the messages of that session (`Delivers`).

All ids of a process, those of its clients' reply sessions and those of its calls, are drawn from one counter.
-/
namespace Graftcode
namespace ServiceBus
namespace Rpc

open PendingReplies (finishFor WaitResult SlotRef Waiting Wiring)

/-- An event of a client's thread, or of a server. -/
inductive RpcEvent where
  | client (event : ClientEvent)
  | server (event : Event)

/-- The threads: a client's constructor, a call, the dispatcher of a client's link, a client's destructor, and a server. -/
inductive Actor (Call Client Server : Type) where
  | constructor (c : Client)
  | call (k : Call)
  | dispatcher (c : Client) (link : Nat)
  | destructor (c : Client)
  | server (s : Server)
  deriving DecidableEq

/-- Who calls what, and from which process. -/
structure Deployment (Process Call Client Server : Type) where
  process : Client → Process
  client : Client → ServiceBusSettings
  server : Server → ServiceBusServerConfig
  owner : Call → Client
  payload : Call → Option Bytes
  payloadSize : Call → Nat

variable {Process Call Client Server : Type}

namespace Deployment

variable (D : Deployment Process Call Client Server)

def config (k : Call) : ServiceBusSettings := D.client (D.owner k)

def request (k : Call) : Bytes := requestBytes (D.payload k) (D.payloadSize k)

/-- The client a thread belongs to. -/
def clientOf : Actor Call Client Server → Option Client
  | .constructor c  => some c
  | .call k         => some (D.owner k)
  | .dispatcher c _ => some c
  | .destructor c   => some c
  | .server _       => none

/-- The map a thread works on. -/
def wiring : Wiring (Actor Call Client Server) RpcEvent Client where
  clientOf := D.clientOf
  event event := .client (.pending event)
  event?
    | .client (.pending event) => some event
    | _                        => none
  event?_iff e x := by
    rcases e with e | e
    · cases e <;> simp
    · simp

/-- What a thread of the process drew, and from which count. -/
def drawn [DecidableEq Process] (p : Process) (x : Actor Call Client Server × RpcEvent) : Option (Reading × UInt64) :=
  match x.2 with
  | .client (.buildCorrelationId reading sequence) =>
    if (D.clientOf x.1).map D.process = some p then some (reading, sequence) else none
  | _ => none

end Deployment

/-- The queue or the topic a client sends to. -/
def requestEntity (config : ServiceBusSettings) : Text := if config.oneWay then config.topic else config.queue

/-- Where what a server receives was sent to: a subscription has the messages of its topic. -/
def sourceEntity (config : ServiceBusServerConfig) : Text := if config.oneWay then config.topic else config.queue

section Trace

variable (D : Deployment Process Call Client Server) (t : List (Actor Call Client Server × RpcEvent))

/-- Somebody sent it to the entity, whatever came of that; a server's sender may have sent it twice. -/
inductive Sent : Actor Call Client Server → Text → AmqpMessage → Prop where
  | request (k : Call) (message : AmqpMessage) (result : Except Exn Bool)
      (sent : (.call k, .client (.send message result)) ∈ t) : Sent (.call k) (requestEntity (D.config k)) message
  | reply (s : Server) (reply : ReplySenderCache.Reply) (result : Except Exn Bool)
      (sent : (.server s, .server (.publishReply reply.replyEntity reply.responseBytes reply.correlationId
        reply.replySessionId result)) ∈ t) : Sent (.server s) reply.replyEntity reply.message

/-- A message as it was sent, with its body in whatever sections. -/
structure Carries (message sent : AmqpMessage) : Prop where
  body : extractMessageBody message = extractMessageBody sent
  messageId : message.messageId = sent.messageId
  correlationId : message.correlationId = sent.correlationId
  replyTo : message.replyTo = sent.replyTo
  groupId : message.groupId = sent.groupId
  replyToGroupId : message.replyToGroupId = sent.replyToGroupId
  applicationProperties : ∀ name, message.applicationProperties.lookup name = sent.applicationProperties.lookup name

/-- The bus forges nothing and alters nothing, and a session's receiver gets that session. -/
structure Delivers (session : Client → Text) : Prop where
  requests : ∀ s m, (.server s, .server (.receive (.message m))) ∈ t →
    ∃ a sent, Sent D t a (sourceEntity (D.server s)) sent ∧ Carries m sent
  replies : ∀ c link m, (.dispatcher c link, .client (.waitForIncomingMessage (.message m))) ∈ t →
    ∃ a sent, Sent D t a (D.client c).replyQueue sent ∧ Carries m sent ∧ sent.groupId = some (session c)

end Trace

variable [DecidableEq Process] [DecidableEq Call] [DecidableEq Client] [DecidableEq Server]

/-- An execution: the session each client has drawn, and what each call has come to. -/
structure Execution (D : Deployment Process Call Client Server) (t : List (Actor Call Client Server × RpcEvent))
    (session : Client → Text) (outcome : Call → Outcome Exn Bytes) : Prop where
  constructors : ∀ c, (construct.under RpcEvent.client).Runs (ofActor (.constructor c) t) (.done (session c))
  calls : ∀ k, ((callClient (D.config k) (session (D.owner k)) (D.payload k) (D.payloadSize k)).under
    RpcEvent.client).Runs (ofActor (.call k) t) (outcome k)
  dispatchers : ∀ c link, ∃ fuel o, ((dispatchReplies fuel).under RpcEvent.client).Runs (ofActor (.dispatcher c link) t) o
  destructors : ∀ c, ∃ o, (destroyClient.under RpcEvent.client).Runs (ofActor (.destructor c) t) o
  servers : ∀ s, ∃ fuel o, ((start (D.server s) fuel).under RpcEvent.server).Runs (ofActor (.server s) t) o
  maps : ∀ c, ∃ (actions : List (PendingReplies.Action Call)) (state : PendingReplies.State Call),
    Machine.run PendingReplies.step .init actions = some (state, D.wiring.events c t)
  counters : ∀ p, Counted buildCorrelationId (D.drawn p) t
  delivers : Delivers D t session

/-- No counter has wrapped. -/
def Unwrapped (D : Deployment Process Call Client Server) (t : List (Actor Call Client Server × RpcEvent)) : Prop :=
  ∀ p, (t.filterMap (D.drawn p)).length ≤ 2 ^ 64

/-- What two processes draw differs, by their threads' names or their clocks. -/
def Apart (D : Deployment Process Call Client Server) (t : List (Actor Call Client Server × RpcEvent)) : Prop :=
  ∀ p p' d d', d ∈ t.filterMap (D.drawn p) → d' ∈ t.filterMap (D.drawn p') →
    buildCorrelationId d.1 d.2 = buildCorrelationId d'.1 d'.2 → p = p'

/-! ## What a server publishes -/

/-- A server publishes a reply only to a request it received, with what the handler has just written, where the request
says. -/
def Answers (config : ServiceBusServerConfig) (h : List Event) (e : Event) : Prop :=
  ∀ replyEntity response correlationId replySessionId result,
    e = .publishReply replyEntity response correlationId replySessionId result → ∃ m writes earlier,
      .receive (.message m) ∈ h ∧ h = .processMessage (extractMessageBody m) writes (.ok true) :: earlier ∧
        config.oneWay = false ∧ tryGetReplyTo m = some replyEntity ∧ response = responseOf writes ∧
        correlationId = m.messageId ∧ replySessionId = tryGetReplySessionId m

section Server

variable {config : ServiceBusServerConfig} {h : List Event}

theorem answers_of_ne {e : Event} (he : ∀ replyEntity response correlationId replySessionId result,
    e ≠ .publishReply replyEntity response correlationId replySessionId result) : Answers config h e :=
  fun _ _ _ _ _ heq => absurd heq (he _ _ _ _ _)

theorem keeps_reply {m : AmqpMessage} {writes : List (Option Bytes)} (hm : .receive (.message m) ∈ h)
    (hway : config.oneWay = false) :
    Prog.Keeps (fun _ _ => True) (Answers config) (reply m (responseOf writes))
      (.processMessage (extractMessageBody m) writes (.ok true) :: h) := by
  unfold reply
  cases hto : tryGetReplyTo m with
  | none => trivial
  | some replyEntity =>
    refine Prog.keeps_call_bind (fun result => ?_) fun _ => trivial
    intro replyEntity' response correlationId replySessionId result' heq
    cases heq
    exact ⟨m, writes, h, List.mem_cons_of_mem _ hm, rfl, hway, hto, rfl, rfl, rfl⟩

theorem keeps_handleMessage {m : AmqpMessage} (hm : .receive (.message m) ∈ h) :
    Prog.Keeps (fun _ _ => True) (Answers config) (handleMessage config m) h := by
  unfold handleMessage
  dsimp only
  split
  · trivial
  refine Prog.keeps_emit_bind (fun _ => answers_of_ne (by simp)) fun configured => ?_
  split
  · trivial
  simp only [Prog.Keeps, Prog.safe_bind, processMessage, Prog.safe_emit, Prog.andThen_ok, Prog.safe_ofExcept]
  rintro ⟨writes, result⟩ -
  refine ⟨answers_of_ne (by simp), ?_⟩
  rcases result with e | processed
  · trivial
  cases processed with
  | false => trivial
  | true =>
    simp only [Except.map, Prog.andThen_ok, Bool.not_true, Bool.false_eq_true, if_false]
    split
    · trivial
    · rename_i hway
      exact keeps_reply (List.mem_cons_of_mem _ hm) (by simpa using hway)

theorem keeps_receive (fuel : Nat) : Prog.Keeps (fun _ _ => True) (Answers config) (receive config fuel) h := by
  refine Prog.keeps_iterate (fun _ h => ?_) fuel () h
  refine Prog.keeps_emit_bind (fun _ => answers_of_ne (by simp)) fun stop => ?_
  split
  · trivial
  refine Prog.keeps_emit_bind (fun _ => answers_of_ne (by simp)) fun incoming => ?_
  cases incoming with
  | throws => trivial
  | error description => trivial
  | nothing => trivial
  | message m => exact (keeps_handleMessage List.mem_cons_self).keeps_bind fun _ _ _ => trivial

/-- **What a server keeps to** when it publishes. -/
theorem keeps_start (fuel : Nat) : Prog.Keeps (fun _ _ => True) (Answers config) (start config fuel) [] := by
  refine Prog.Safe.keeps_tryCatch ?_ fun _ _ => trivial
  refine Prog.keeps_iterate (fun _ h => ?_) fuel () []
  refine Prog.keeps_emit_bind (fun _ => answers_of_ne (by simp)) fun stop => ?_
  split
  · trivial
  have hconnection : Prog.Keeps (fun _ _ => True) (Answers config) (connection config fuel)
      (.stopRequested stop :: h) := by
    refine Prog.keeps_call_bind (fun _ => answers_of_ne (by simp)) fun _ => ?_
    exact (keeps_receive fuel).keeps_bind fun _ _ _ => Prog.keeps_emit fun _ => answers_of_ne (by simp)
  exact hconnection.keeps_attempt.keeps_bind fun _ _ _ => trivial

end Server

/-! ## What the threads of an execution keep to -/

section Run

variable {D : Deployment Process Call Client Server} {t : List (Actor Call Client Server × RpcEvent)}
  {session : Client → Text} {outcome : Call → Outcome Exn Bytes}

theorem client_injective : Function.Injective RpcEvent.client := fun _ _ h => RpcEvent.client.inj h

theorem server_injective : Function.Injective RpcEvent.server := fun _ _ h => RpcEvent.server.inj h

theorem Execution.call_at (hx : Execution D t session outcome) {k : Call} {e : ClientEvent}
    {before after : List (Actor Call Client Server × RpcEvent)} (ht : t = before ++ (.call k, .client e) :: after) :
    ∃ h, CallDiscipline (D.config k) (session (D.owner k)) (D.payload k) (D.payloadSize k) h e ∧
      ∀ x, x ∈ h ↔ (.call k, .client x) ∈ before := by
  obtain ⟨h, hd, -, hm⟩ := discipline_under client_injective (safe_callClient.and keeps_callClient) (hx.calls k) ht
  exact ⟨h, hd, hm⟩

theorem Execution.dispatcher_at (hx : Execution D t session outcome) {c : Client} {link : Nat} {e : ClientEvent}
    {before after : List (Actor Call Client Server × RpcEvent)}
    (ht : t = before ++ (.dispatcher c link, .client e) :: after) :
    ∃ h, DispatchDiscipline h e ∧ ∀ x, x ∈ h ↔ (.dispatcher c link, .client x) ∈ before := by
  obtain ⟨fuel, o, hr⟩ := hx.dispatchers c link
  obtain ⟨h, hd, -, hm⟩ := discipline_under client_injective (keeps_dispatchReplies fuel) hr ht
  exact ⟨h, hd, hm⟩

theorem Execution.server_at (hx : Execution D t session outcome) {s : Server} {e : Event}
    {before after : List (Actor Call Client Server × RpcEvent)} (ht : t = before ++ (.server s, .server e) :: after) :
    ∃ h, Answers (D.server s) h e ∧ ofActor (.server s) before = h.reverse.map RpcEvent.server ∧
      ∀ x, x ∈ h ↔ (.server s, .server x) ∈ before := by
  obtain ⟨fuel, o, hr⟩ := hx.servers s
  exact discipline_under server_injective (keeps_start fuel) hr ht

theorem Execution.constructor_events (hx : Execution D t session outcome) (c : Client) :
    ∃ reading sequence, ofActor (.constructor c) t = [.client (.buildCorrelationId reading sequence)] ∧
      session c = buildCorrelationId reading sequence := by
  obtain ⟨u, hu, hr⟩ := Prog.runs_under.1 (hx.constructors c)
  obtain ⟨u₁, u₂, ⟨reading, sequence⟩, rfl, hdraw, rfl, hdone⟩ := Prog.runs_bind_done.1 hr
  obtain rfl := Prog.runs_emit_done.1 hdraw
  exact ⟨reading, sequence, by rw [hu]; rfl, Outcome.done.inj hdone⟩

theorem Execution.destructor_event (hx : Execution D t session outcome) {c : Client} {e : ClientEvent}
    (hm : (Actor.destructor c, RpcEvent.client e) ∈ t) : e = .pending (.closed shuttingDown) := by
  obtain ⟨o, hr⟩ := hx.destructors c
  have hsafe : destroyClient.Safe (fun _ _ => True) (fun _ e => e = .pending (.closed shuttingDown)) (fun _ _ => True)
      [] := fun _ _ => ⟨rfl, trivial⟩
  obtain ⟨before, after, ht⟩ := List.append_of_mem hm
  obtain ⟨h, hd, -⟩ := discipline_under client_injective hsafe hr ht
  exact hd

omit [DecidableEq Call] [DecidableEq Client] [DecidableEq Server] in
theorem Deployment.drawn_of_mem (D : Deployment Process Call Client Server) {a : Actor Call Client Server} {c : Client}
    {reading : Reading} {sequence : UInt64} (ha : D.clientOf a = some c) :
    D.drawn (D.process c) (a, .client (.buildCorrelationId reading sequence)) = some (reading, sequence) := by
  simp [Deployment.drawn, ha]

/-- **An id tells its thread**: two threads of clients that drew one id are one. -/
theorem Execution.drawn_once (hx : Execution D t session outcome) (hu : Unwrapped D t) (hapart : Apart D t)
    {a a' : Actor Call Client Server} {c c' : Client} {reading reading' : Reading} {sequence sequence' : UInt64}
    (ha : D.clientOf a = some c) (ha' : D.clientOf a' = some c')
    (hm : (a, .client (.buildCorrelationId reading sequence)) ∈ t)
    (hm' : (a', .client (.buildCorrelationId reading' sequence')) ∈ t)
    (heq : buildCorrelationId reading sequence = buildCorrelationId reading' sequence') : a = a' := by
  have hd : D.drawn (D.process c) (a, .client (.buildCorrelationId reading sequence)) = some (reading, sequence) :=
    D.drawn_of_mem ha
  have hd' : D.drawn (D.process c') (a', .client (.buildCorrelationId reading' sequence')) = some (reading', sequence') :=
    D.drawn_of_mem ha'
  have hprocess : D.process c = D.process c' := hapart _ _ _ _ (List.mem_filterMap.2 ⟨_, hm, hd⟩)
    (List.mem_filterMap.2 ⟨_, hm', hd'⟩) heq
  rw [← hprocess] at hd'
  exact (Prod.mk.inj ((hx.counters _).once (counted_sequence _) (hu _) hm hm' hd hd' heq)).1

/-! ### The maps -/

/-- **The threads of a client wait as they have to**: once, and on a slot of their own. -/
theorem Execution.waiting (hx : Execution D t session outcome) : Waiting Call D.wiring t where
  maps := hx.maps
  waits before a after slot r c ha ht := by
    have hm : (a, RpcEvent.client (.pending (.waited slot r))) ∈ t := by
      rw [ht]
      simp [Deployment.wiring]
    cases a with
    | constructor c' =>
      obtain ⟨reading, sequence, hevents, -⟩ := hx.constructor_events c'
      rw [← mem_ofActor, hevents] at hm
      simp at hm
    | call k =>
      obtain ⟨h, hd, hmem⟩ := hx.call_at ht
      obtain ⟨⟨id, hreg⟩, hun⟩ := hd.1.waits slot r rfl
      exact ⟨⟨id, (hmem _).1 hreg⟩, fun slot' r' hw => hun slot' r' ((hmem _).2 hw)⟩
    | dispatcher c' link =>
      obtain ⟨h, hd, -⟩ := hx.dispatcher_at ht
      cases hd.finishes _ rfl
    | destructor c' => cases hx.destructor_event hm
    | server s => cases ha

/-- What finishes an id with bytes is a link's dispatcher, with a message it received for it. -/
theorem Execution.completes (hx : Execution D t session outcome) {c : Client} {a : Actor Call Client Server}
    {x : PendingReplies.Event} {id : Text} {bytes : Bytes} (ha : D.clientOf a = some c)
    (hm : (a, RpcEvent.client (.pending x)) ∈ t) (hr : finishFor id x = some (.returned bytes)) :
    ∃ link m, (Actor.dispatcher c link, RpcEvent.client (.waitForIncomingMessage (.message m))) ∈ t ∧
      correlationOf m = .string id ∧ extractMessageBody m = bytes := by
  cases a with
  | constructor c' =>
    obtain ⟨reading, sequence, hevents, -⟩ := hx.constructor_events c'
    rw [← mem_ofActor, hevents] at hm
    simp at hm
  | call k =>
    obtain ⟨before, after, ht⟩ := List.append_of_mem hm
    obtain ⟨h, hd, -⟩ := hx.call_at ht
    rw [hd.1.finishes x id rfl] at hr
    cases hr
  | dispatcher c' link =>
    obtain rfl : c' = c := Option.some.inj ha
    obtain ⟨before, after, ht⟩ := List.append_of_mem hm
    obtain ⟨h, hd, hmem⟩ := hx.dispatcher_at ht
    cases hd.finishes x rfl with
    | reply m id' found hreceived hown =>
      simp only [finishFor, Option.ite_none_right_eq_some, Option.some.injEq, WaitResult.returned.injEq] at hr
      obtain ⟨rfl, rfl⟩ := hr
      refine ⟨link, m, ?_, hown, rfl⟩
      rw [ht]
      exact List.mem_append_left _ ((hmem _).1 hreceived)
    | receiverThrew what hreceived => simp [finishFor] at hr
    | receiverFailed description hreceived => simp [finishFor] at hr
  | destructor c' =>
    cases hx.destructor_event hm
    simp [finishFor] at hr
  | server s => cases ha

/-! ### What is sent -/

/-- The answer of a server's handler that succeeded on `payload`, published for `id` and `session`. -/
def AnsweredBy (t : List (Actor Call Client Server × RpcEvent)) (s : Server) (payload : Bytes) (id session : Text)
    (bytes : Bytes) : Prop :=
  ∃ before writes replyEntity result after, bytes = responseOf writes ∧
    ofActor (.server s) t = before ++ .server (.processMessage payload writes (.ok true)) ::
      .server (.publishReply replyEntity bytes (.string id) (some session) result) :: after

theorem Execution.call_sends (hx : Execution D t session outcome) {k : Call} {message : AmqpMessage}
    {result : Except Exn Bool} (hm : (Actor.call k, RpcEvent.client (.send message result)) ∈ t) :
    ∃ reading sequence, (Actor.call k, RpcEvent.client (.buildCorrelationId reading sequence)) ∈ t ∧
      callMessage (D.config k).toServiceBusClientConfig (session (D.owner k)) (buildCorrelationId reading sequence)
        (D.payload k) (D.payloadSize k) = .ok message := by
  obtain ⟨before, after, ht⟩ := List.append_of_mem hm
  obtain ⟨h, hd, hmem⟩ := hx.call_at ht
  obtain ⟨id, ⟨reading, sequence, hdrew, rfl⟩, hmessage⟩ := hd.2 message result rfl
  refine ⟨reading, sequence, ?_, hmessage⟩
  rw [ht]
  exact List.mem_append_left _ ((hmem _).1 hdrew)

/-- A server publishes what its handler has just written for a request that it received and that names where to reply. -/
theorem Execution.server_publishes (hx : Execution D t session outcome) {s : Server} {reply : ReplySenderCache.Reply}
    {result : Except Exn Bool} (hm : (Actor.server s, RpcEvent.server (.publishReply reply.replyEntity
      reply.responseBytes reply.correlationId reply.replySessionId result)) ∈ t) :
    ∃ m, (Actor.server s, RpcEvent.server (.receive (.message m))) ∈ t ∧ tryGetReplyTo m = some reply.replyEntity ∧
      reply.correlationId = m.messageId ∧ reply.replySessionId = tryGetReplySessionId m ∧
      ∀ id session', m.messageId = .string id → tryGetReplySessionId m = some session' →
        AnsweredBy t s (extractMessageBody m) id session' reply.responseBytes := by
  obtain ⟨before, after, ht⟩ := List.append_of_mem hm
  obtain ⟨h, hd, hbefore, hmem⟩ := hx.server_at ht
  obtain ⟨m, writes, earlier, hreceived, hh, -, hto, hresponse, hid, hsession⟩ := hd _ _ _ _ _ rfl
  refine ⟨m, ?_, hto, hid, hsession, fun id session' hmid hmsession => ?_⟩
  · rw [ht]
    exact List.mem_append_left _ ((hmem _).1 hreceived)
  · rw [hid, hmid, hsession, hmsession] at ht
    refine ⟨earlier.reverse.map RpcEvent.server, writes, reply.replyEntity, result, ofActor (.server s) after, hresponse, ?_⟩
    rw [ht, ofActor_append, ofActor_cons_self, hbefore, hh]
    simp

theorem callMessage_eq {config : ServiceBusClientConfig} {replySessionId correlationId : Text} {payload : Option Bytes}
    {payloadSize : Nat} {m : AmqpMessage}
    (h : callMessage config replySessionId correlationId payload payloadSize = .ok m) :
    m.messageId = .string correlationId ∧ m.correlationId = .null ∧ m.groupId = none ∧ m.applicationProperties = [] ∧
      extractMessageBody m = requestBytes payload payloadSize ∧
      (config.oneWay = true → m.replyTo = .null) ∧
      (config.oneWay = false → m.replyToGroupId = some replySessionId) := by
  have hbody := callMessage_body h
  unfold callMessage at h
  split at h
  · cases h
  split at h
  · cases h
  dsimp only at h
  split at h
  · rename_i hway
    cases h
    exact ⟨rfl, rfl, rfl, rfl, hbody, fun _ => rfl, fun hw => by rw [hway] at hw; cases hw⟩
  · rename_i hway
    cases h
    exact ⟨rfl, rfl, rfl, rfl, hbody, fun hw => absurd hw hway, fun _ => rfl⟩

theorem tryGetReplyTo_null {m : AmqpMessage} (h : m.replyTo = .null) : tryGetReplyTo m = none := by
  simp [tryGetReplyTo, h]

theorem buildCorrelationId_ne_nil (reading : Reading) (sequence : UInt64) : buildCorrelationId reading sequence ≠ [] := by
  simp [buildCorrelationId, counted]

theorem tryGetReplySessionId_of_group {m : AmqpMessage} {id : Text} (h : m.replyToGroupId = some id) (hid : id ≠ []) :
    tryGetReplySessionId m = some id := by
  simp [tryGetReplySessionId, h, Option.filter, hid]

/-- A message that a server received and that names where to reply was sent by a two-way call. -/
theorem Execution.request_of_received (hx : Execution D t session outcome) {s : Server} {m : AmqpMessage}
    {replyEntity : Text}
    (hm : (Actor.server s, RpcEvent.server (.receive (.message m))) ∈ t) (hto : tryGetReplyTo m = some replyEntity) :
    ∃ k reading sequence, (Actor.call k, RpcEvent.client (.buildCorrelationId reading sequence)) ∈ t ∧
      m.messageId = .string (buildCorrelationId reading sequence) ∧
      tryGetReplySessionId m = some (session (D.owner k)) ∧ extractMessageBody m = D.request k := by
  obtain ⟨a, sent, hsent, hcarries⟩ := hx.delivers.requests s m hm
  generalize sourceEntity (D.server s) = entity at hsent
  cases hsent with
  | request k message result hin =>
    obtain ⟨reading, sequence, hdrew, hmessage⟩ := hx.call_sends hin
    obtain ⟨hid, -, -, -, hbody, hoff, hon⟩ := callMessage_eq hmessage
    cases hway : (D.config k).toServiceBusClientConfig.oneWay with
    | true =>
      rw [tryGetReplyTo_null (hcarries.replyTo.trans (hoff hway))] at hto
      cases hto
    | false =>
      obtain ⟨r, n, -, hsession⟩ := hx.constructor_events (D.owner k)
      have hne : session (D.owner k) ≠ [] := by
        rw [hsession]
        exact buildCorrelationId_ne_nil r n
      exact ⟨k, reading, sequence, hdrew, hcarries.messageId.trans hid,
        tryGetReplySessionId_of_group (hcarries.replyToGroupId.trans (hon hway)) hne, hcarries.body.trans hbody⟩
  | reply s' reply result hin =>
    rw [tryGetReplyTo_null hcarries.replyTo] at hto
    cases hto

/-- What some server's handler wrote, in a run that succeeded, on the payload of a call of the client `c`, published into
the session for the id that this call drew. -/
def Own (D : Deployment Process Call Client Server) (t : List (Actor Call Client Server × RpcEvent)) (session : Text)
    (c : Client) (m : AmqpMessage) : Prop :=
  ∃ k reading sequence s, D.owner k = c ∧ (Actor.call k, RpcEvent.client (.buildCorrelationId reading sequence)) ∈ t ∧
    correlationOf m = .string (buildCorrelationId reading sequence) ∧
    AnsweredBy t s (D.request k) (buildCorrelationId reading sequence) session (extractMessageBody m)

/-- A link receives only answers to its own client's calls. -/
theorem Execution.receives (hx : Execution D t session outcome) (hu : Unwrapped D t) (hapart : Apart D t) {c : Client}
    {link : Nat} {m : AmqpMessage}
    (hm : (Actor.dispatcher c link, RpcEvent.client (.waitForIncomingMessage (.message m))) ∈ t) :
    Own D t (session c) c m := by
  obtain ⟨a, sent, hsent, hcarries, hgroup⟩ := hx.delivers.replies c link m hm
  generalize (D.client c).replyQueue = entity at hsent
  cases hsent with
  | request k message result hin =>
    obtain ⟨reading, sequence, -, hmessage⟩ := hx.call_sends hin
    obtain ⟨-, -, hnone, -⟩ := callMessage_eq hmessage
    rw [hnone] at hgroup
    cases hgroup
  | reply s reply result hin =>
    obtain ⟨request, hreceived, hto, hid, hsession, hanswered⟩ := hx.server_publishes hin
    obtain ⟨k, reading, sequence, hdrew, hmessageId, hreply, hbody⟩ := hx.request_of_received hreceived hto
    -- the session of the reply is that of the call's client, and tells it
    have hsame : session (D.owner k) = session c := by
      have hstamped : reply.replySessionId = some (session c) := hgroup
      rw [hsession, hreply] at hstamped
      exact Option.some.inj hstamped
    obtain ⟨r, n, hevents, hr⟩ := hx.constructor_events (D.owner k)
    obtain ⟨r', n', hevents', hr'⟩ := hx.constructor_events c
    have hin : (Actor.constructor (D.owner k), RpcEvent.client (.buildCorrelationId r n)) ∈ t :=
      mem_ofActor.1 (by rw [hevents]; exact List.mem_cons_self)
    have hin' : (Actor.constructor c, RpcEvent.client (.buildCorrelationId r' n')) ∈ t :=
      mem_ofActor.1 (by rw [hevents']; exact List.mem_cons_self)
    have howner : D.owner k = c := by
      have hdrawn := hx.drawn_once hu hapart rfl rfl hin hin' (by rw [← hr, ← hr', hsame])
      exact Actor.constructor.inj hdrawn
    have hcorrelation : correlationOf m = .string (buildCorrelationId reading sequence) := by
      have hown : m.correlationId = .string (buildCorrelationId reading sequence) := by
        rw [hcarries.correlationId, ← hmessageId, ← hid]
        rfl
      rw [correlationOf, hown]
    have hresponse : extractMessageBody m = reply.responseBytes := by
      rw [hcarries.body]
      simp [extractMessageBody, ReplySenderCache.Reply.message]
    refine ⟨k, reading, sequence, s, howner, hdrew, hcorrelation, ?_⟩
    rw [hresponse, ← hbody, ← hsame]
    exact hanswered _ _ hmessageId hreply

/-- A two-way call returns an answer to its own payload. -/
theorem Execution.returns (hx : Execution D t session outcome) (hu : Unwrapped D t) (hapart : Apart D t) {k : Call}
    {bytes : Bytes} (hway : (D.config k).oneWay = false) (hret : outcome k = .done bytes) :
    ∃ reading sequence s, (Actor.call k, RpcEvent.client (.buildCorrelationId reading sequence)) ∈ t ∧
      AnsweredBy t s (D.request k) (buildCorrelationId reading sequence) (session (D.owner k)) bytes := by
  -- the call has waited for what it returns
  obtain ⟨u, hu', hr⟩ := Prog.runs_under.1 (hx.calls k)
  rw [hret] at hr
  obtain ⟨slot, hm⟩ := safe_callClient.post hr (Prog.admits_true _ _) hway bytes rfl
  have hmem : (Actor.call k, RpcEvent.client (.pending (.waited slot (.returned bytes)))) ∈ t := by
    rw [← mem_ofActor, hu']
    exact List.mem_map_of_mem (by simpa using hm)
  obtain ⟨before, after, ht⟩ := List.append_of_mem hmem
  obtain ⟨id, pre, mid, rfl, hout⟩ := hx.waiting.outcome (a := .call k) (c := D.owner k) rfl ht
  -- for an id it drew
  have hreg : t = pre ++ (.call k, .client (.pending (.registered id slot))) ::
      (mid ++ (.call k, .client (.pending (.waited slot (.returned bytes)))) :: after) := by
    rw [ht]
    simp [Deployment.wiring]
  obtain ⟨h, hd, hmemh⟩ := hx.call_at hreg
  obtain ⟨reading, sequence, hdrew, rfl⟩ := hd.1.registers id slot rfl
  have hdrew : (Actor.call k, RpcEvent.client (.buildCorrelationId reading sequence)) ∈ t := by
    rw [hreg]
    exact List.mem_append_left _ ((hmemh _).1 hdrew)
  -- which a dispatcher of its client finished, with an answer to a call that drew it too
  rcases PendingReplies.outcome_cases hout with ⟨hno, -⟩ | ⟨-, a, x, ha, hx', hfin⟩
  · cases hno
  have hin : (a, RpcEvent.client (.pending x)) ∈ t := by
    rw [hreg]
    simp only [List.mem_append, List.mem_cons]
    exact Or.inr (Or.inr (Or.inl hx'))
  obtain ⟨link, m, hreceived, hown, rfl⟩ := hx.completes ha hin hfin
  obtain ⟨k', reading', sequence', s, howner, hdrew', hown', hanswered⟩ := hx.receives hu hapart hreceived
  have hid : buildCorrelationId reading' sequence' = buildCorrelationId reading sequence := by
    rw [hown'] at hown
    exact AmqpValue.string.inj hown
  obtain rfl : k' = k := Actor.call.inj (hx.drawn_once hu hapart rfl rfl hdrew' hdrew hid)
  rw [hid] at hanswered
  exact ⟨reading, sequence, s, hdrew, hanswered⟩

/-- **End-to-end correctness**: whatever the receiver of a link hands out answers a call of that link's own client, and what
a two-way call returns is what some server's handler wrote, in a run that succeeded, on that call's payload; the server
published it for the id that this call alone drew and into the reply session of its client. -/
theorem answers_reach_their_caller (hx : Execution D t session outcome) (hu : Unwrapped D t) (hapart : Apart D t) :
    (∀ c link m, (Actor.dispatcher c link, RpcEvent.client (.waitForIncomingMessage (.message m))) ∈ t →
      Own D t (session c) c m) ∧
      ∀ k bytes, (D.config k).oneWay = false → outcome k = .done bytes →
        ∃ reading sequence s, (Actor.call k, RpcEvent.client (.buildCorrelationId reading sequence)) ∈ t ∧
          AnsweredBy t s (D.request k) (buildCorrelationId reading sequence) (session (D.owner k)) bytes :=
  ⟨fun _ _ _ hm => hx.receives hu hapart hm, fun _ _ hway hret => hx.returns hu hapart hway hret⟩

end Run

/-! ### An execution -/

section Demo

def demoConfig : ServiceBusSettings where
  queue := ['q']
  replyQueue := ['r']

def demo : Deployment Unit Unit Unit Unit where
  process _ := ()
  client _ := demoConfig
  server _ := { queue := ['q'] }
  owner _ := ()
  payload _ := some [7]
  payloadSize _ := 1

def demoReading : Reading := ⟨['1'], 5⟩

def demoSession : Text := buildCorrelationId demoReading 0

def demoId : Text := buildCorrelationId demoReading 1

def demoRequest : AmqpMessage where
  body := .data [[7]]
  messageId := .string demoId
  contentType := some "application/octet-stream".toList
  replyTo := .string ['r']
  replyToGroupId := some demoSession

def demoReply : ReplySenderCache.Reply where
  replyEntity := ['r']
  responseBytes := [8]
  correlationId := .string demoId
  replySessionId := some demoSession

def demoCall : List ClientEvent :=
  [.currentLink (.ok ()), .buildCorrelationId demoReading 1, .pending (.registered demoId 0), .send demoRequest (.ok true)]

def demoReturn : List ClientEvent := [.pending (.waited 0 (.returned [8])), .pending .destroyed]

def demoServe : List Event :=
  [.stopRequested false, .connect (.ok ()), .stopRequested false, .receive (.message demoRequest),
    .currentProcessMessage true, .processMessage [7] [some [8]] (.ok true),
    .publishReply ['r'] [8] (.string demoId) (some demoSession) (.ok true)]

def demoDispatch : List ClientEvent :=
  [.stoppingLoaded false, .waitForIncomingMessage (.message demoReply.message), .pending (.completed demoId [8] true)]

def demoTrace : List (Actor Unit Unit Unit × RpcEvent) :=
  (.constructor (), .client (.buildCorrelationId demoReading 0)) ::
    [demoCall.map fun e => (.call (), .client e), demoServe.map fun e => (.server (), .server e),
      demoDispatch.map fun e => (.dispatcher () 0, .client e), demoReturn.map fun e => (.call (), .client e)].flatten

theorem demoCall_runs : (callClient demoConfig demoSession (some [7]) 1).Runs (demoCall ++ demoReturn) (.done [8]) := by
  unfold callClient
  refine Prog.runs_ask.2 ⟨.ok (), rfl, ?_⟩
  refine Prog.runs_ask.2 ⟨(demoReading, 1), rfl, ?_⟩
  refine Prog.runs_ask.2 ⟨.ok 0, rfl, ?_⟩
  refine Prog.runs_ask.2 ⟨.ok true, rfl, ?_⟩
  refine Prog.runs_ask.2 ⟨.returned [8], rfl, ?_⟩
  refine Prog.runs_ask.2 ⟨(), rfl, ?_⟩
  exact ⟨rfl, rfl⟩

theorem demoServe_runs : (start { queue := ['q'] } 1).Runs demoServe .cut := by
  unfold start connection receive
  refine Prog.runs_ask.2 ⟨false, rfl, ?_⟩
  refine Prog.runs_ask.2 ⟨.ok (), rfl, ?_⟩
  refine Prog.runs_ask.2 ⟨false, rfl, ?_⟩
  refine Prog.runs_ask.2 ⟨.message demoRequest, rfl, ?_⟩
  refine Prog.runs_ask.2 ⟨true, rfl, ?_⟩
  refine Prog.runs_ask.2 ⟨([some [8]], .ok true), rfl, ?_⟩
  refine Prog.runs_ask.2 ⟨.ok true, rfl, ?_⟩
  exact ⟨rfl, rfl⟩

theorem demoDispatch_runs : (dispatchReplies 1).Runs demoDispatch .cut := by
  unfold dispatchReplies
  refine Prog.runs_ask.2 ⟨false, rfl, ?_⟩
  refine Prog.runs_ask.2 ⟨.message demoReply.message, rfl, ?_⟩
  refine Prog.runs_ask.2 ⟨true, rfl, ?_⟩
  exact ⟨rfl, rfl⟩

theorem carries_refl (m : AmqpMessage) : Carries m m := ⟨rfl, rfl, rfl, rfl, rfl, rfl, fun _ => rfl⟩

theorem demo_delivers : Delivers demo demoTrace fun _ => demoSession where
  requests _ m hm := by
    have heq : m = demoRequest := by simpa [demoTrace, demoCall, demoServe, demoDispatch, demoReturn] using hm
    subst heq
    exact ⟨_, _, .request () demoRequest (.ok true) (by simp [demoTrace, demoCall]), carries_refl _⟩
  replies _ link m hm := by
    have heq : link = 0 ∧ m = demoReply.message := by
      simpa [demoTrace, demoCall, demoServe, demoDispatch, demoReturn] using hm
    obtain ⟨rfl, rfl⟩ := heq
    refine ⟨_, _, .reply () demoReply (.ok true) ?_, carries_refl _, rfl⟩
    simp [demoTrace, demoServe, demoReply]

theorem demo_drawn : demoTrace.filterMap (demo.drawn ()) = [(demoReading, 0), (demoReading, 1)] := rfl

theorem demo_execution : Execution demo demoTrace (fun _ => demoSession) fun _ => .done [8] where
  constructors _ := Prog.runs_under.2
    ⟨[.buildCorrelationId demoReading 0], rfl, Prog.runs_ask.2 ⟨(demoReading, 0), rfl, rfl, rfl⟩⟩
  calls _ := Prog.runs_under.2 ⟨demoCall ++ demoReturn, rfl, demoCall_runs⟩
  dispatchers _ link := by
    by_cases hlink : link = 0
    · subst hlink
      exact ⟨1, .cut, Prog.runs_under.2 ⟨demoDispatch, rfl, demoDispatch_runs⟩⟩
    · refine ⟨0, .cut, Prog.runs_under.2 ⟨[], ?_, rfl, rfl⟩⟩
      simp [ofActor, demoTrace, demoCall, demoServe, demoDispatch, demoReturn, Ne.symm hlink]
  destructors _ := ⟨.cut, Prog.runs_under.2 ⟨[], rfl, Or.inl ⟨rfl, rfl⟩⟩⟩
  servers _ := ⟨1, .cut, Prog.runs_under.2 ⟨demoServe, rfl, demoServe_runs⟩⟩
  maps _ := ⟨[.register () demoId, .complete demoId [8], .wait (), .destroy ()], _, rfl⟩
  counters _ := ⟨2, rfl⟩
  delivers := demo_delivers

theorem demo_unwrapped : Unwrapped demo demoTrace := fun () => by
  rw [demo_drawn]
  decide

theorem demo_apart : Apart demo demoTrace := fun _ _ _ _ _ _ _ => rfl

theorem answers_reach_their_caller_demo :
    (∀ c link m, (Actor.dispatcher c link, RpcEvent.client (.waitForIncomingMessage (.message m))) ∈ demoTrace →
      Own demo demoTrace demoSession c m) ∧
      ∀ k bytes, (demo.config k).oneWay = false → Outcome.done [8] = (.done bytes : Outcome Exn Bytes) →
        ∃ reading sequence s, (Actor.call k, RpcEvent.client (.buildCorrelationId reading sequence)) ∈ demoTrace ∧
          AnsweredBy demoTrace s (demo.request k) (buildCorrelationId reading sequence) demoSession bytes :=
  answers_reach_their_caller demo_execution demo_unwrapped demo_apart

end Demo

end Rpc
end ServiceBus
end Graftcode
