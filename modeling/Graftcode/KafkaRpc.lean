import Graftcode.KafkaClients
import Graftcode.PendingWaits
import Graftcode.ProgRuns
/-!
# KafkaRpc — calls, dispatchers and servers around the topics

The whole transport: any number of clients with any number of calls each, their dispatchers and destructors, and any
number of gateways, every one of them the program of its own module.  An execution is one trace of all their events.  The
broker may lose, delay, reorder and duplicate, and hand a record to any consumer of its topic; what it hands over was
produced to the topic it is consumed from (`Delivers`).
-/
namespace Graftcode
namespace Kafka
namespace Rpc

open Prog (Keeps)
open PendingReplies (finishFor WaitResult SlotRef Waiting Wiring)

/-! ## What the threads keep to -/

/-- A call produces its own payload, for an id it made, and finishes no id. -/
structure Produces (config : KafkaClientConfig) (payload : Bytes) (h : List ClientEvent) (e : ClientEvent) : Prop where
  produces : ∀ topic headers bytes tag error, e = .produce topic headers bytes tag error →
    topic = config.requestTopic ∧ bytes = payload ∧
      ∃ id, .newCorrelationId id ∈ h ∧ headers = makeRpcHeaders id config.replyTopic
  finishes : ∀ event id, e = .pending event → finishFor id event = none

def undelivered (id errstr : Text) : Text :=
  "Kafka delivery failed for correlation-id=".toList ++ id ++ ": ".toList ++ errstr

/-- What the other threads of a client do to its map, and on what. -/
inductive Finishes (h : List ClientEvent) : PendingReplies.Event → Prop where
  | reply (record : Record) (found : Bool) (consumed : .consume (.record record) ∈ h)
      (named : correlationIdOf record ≠ []) : Finishes h (.completed (correlationIdOf record) record.payload found)
  | undelivered (id errstr : Text) (found : Bool) (reported : .deliveryReport (some ⟨some id, some errstr⟩) ∈ h) :
      Finishes h (.failed id (undelivered id errstr) found)
  | closed : Finishes h (.closed "Kafka client is shutting down".toList)

structure Dispatches (h : List ClientEvent) (e : ClientEvent) : Prop where
  produces : ∀ topic headers bytes tag error, e ≠ .produce topic headers bytes tag error
  finishes : ∀ event, e = .pending event → Finishes h event

/-- A gateway produces only the reply to a record it consumed, with what the handler has just written. -/
def Replies (config : KafkaServerConfig) (h : List Event) (e : Event) : Prop :=
  ∀ topic correlationId payload error, e = .produce topic correlationId payload error →
    ∃ record writes earlier, .consume (.record record) ∈ h ∧
      h = .processMessage record.payload writes (.ok true) :: earlier ∧
      topic = replyToOf config record ∧ correlationId = replyHeader (correlationIdOf record) ∧ payload = responseOf writes

section Calls

variable {config : KafkaClientConfig} {payload : Bytes} {fuel : Nat} {h : List ClientEvent}

theorem produces_quiet {e : ClientEvent} (hp : ∀ topic headers bytes tag error, e ≠ .produce topic headers bytes tag error)
    (he : ∀ event, e ≠ .pending event) : Produces config payload h e where
  produces _ _ _ _ _ heq := absurd heq (hp _ _ _ _ _)
  finishes _ _ heq := absurd heq (he _)

theorem produces_pending {event : PendingReplies.Event} (he : ∀ id, finishFor id event = none) :
    Produces config payload h (.pending event) where
  produces := nofun
  finishes event' id heq := by
    cases heq
    exact he id

theorem keeps_warmUp : Keeps (fun _ _ => True) (Produces config payload) (warmUp fuel) h := by
  refine Prog.keeps_iterate (fun _ h => ?_) fuel () h
  refine Prog.keeps_emit_bind (fun _ => produces_quiet nofun nofun) fun before => ?_
  split
  · trivial
  refine Prog.keeps_emit_bind (fun _ => produces_quiet nofun nofun) fun consumed => ?_
  cases consumed <;> trivial

theorem keeps_subscribeReplies (topic : Text) :
    Keeps (fun _ _ => True) (Produces config payload) (subscribeReplies topic) h := by
  refine Prog.keeps_emit_bind (fun _ => produces_quiet nofun nofun) fun error => ?_
  cases error <;> trivial

theorem keeps_ensureStarted : Keeps (fun _ _ => True) (Produces config payload) (ensureStarted config fuel) h := by
  refine Prog.keeps_emit_bind (fun _ => produces_quiet nofun nofun) fun started => ?_
  split
  · trivial
  refine Prog.keeps_emit_bind (fun _ => produces_quiet nofun nofun) fun _ => ?_
  refine Prog.Safe.keeps_bind (Q := fun _ _ => True) ?_ fun _ h _ => Prog.keeps_emit fun _ => produces_quiet nofun nofun
  refine Prog.Safe.keeps_tryCatch ?_ fun e h => ?_
  · refine Prog.keeps_emit_bind (fun _ => produces_quiet nofun nofun) fun started => ?_
    split
    · trivial
    refine Prog.keeps_call_bind (fun _ => produces_quiet nofun nofun) fun _ => ?_
    refine Prog.keeps_call_bind (fun _ => produces_quiet nofun nofun) fun _ => ?_
    refine (keeps_subscribeReplies config.replyTopic).keeps_bind fun _ h _ => ?_
    refine keeps_warmUp.keeps_bind fun _ h _ => ?_
    refine Prog.keeps_call_bind (fun _ => produces_quiet nofun nofun) fun _ => ?_
    exact Prog.keeps_emit fun _ => produces_quiet nofun nofun
  · exact Prog.keeps_emit_bind (fun _ => produces_quiet nofun nofun) fun _ => trivial

theorem keeps_produce {id : Text} (hid : .newCorrelationId id ∈ h) :
    Keeps (fun _ _ => True) (Produces config payload) (Kafka.produce config id payload) h := by
  refine Prog.keeps_emit_bind (fun error => ⟨fun topic headers bytes tag error' heq => ?_, nofun⟩) fun error => ?_
  · cases heq
    exact ⟨rfl, rfl, id, hid, rfl⟩
  · cases error <;> trivial

theorem keeps_awaitReply {id : Text} (hid : .newCorrelationId id ∈ h) :
    Keeps (fun _ _ => True) (Produces config payload) (awaitReply config payload id) h :=
  PendingReplies.keeps_withTicket (fun _ _ he => produces_pending he)
    fun _ => keeps_produce (List.mem_cons_of_mem _ hid)

theorem keeps_callClient (data : Option Bytes) (len : Nat) :
    Keeps (fun _ _ => True) (Produces config (payloadOf data len)) (callClient config data len fuel) [] := by
  unfold callClient
  split
  · trivial
  refine keeps_ensureStarted.keeps_bind fun _ h _ => ?_
  intro id _
  exact ⟨produces_quiet nofun nofun, keeps_awaitReply List.mem_cons_self⟩

end Calls

section Dispatcher

variable {fuel : Nat} {h : List ClientEvent}

theorem dispatches_quiet {e : ClientEvent} (hp : ∀ topic headers bytes tag error, e ≠ .produce topic headers bytes tag error)
    (he : ∀ event, e ≠ .pending event) : Dispatches h e where
  produces := hp
  finishes _ heq := absurd heq (he _)

theorem dispatches_pending {event : PendingReplies.Event} (he : Finishes h event) : Dispatches h (.pending event) where
  produces := nofun
  finishes event' heq := by
    cases heq
    exact he

theorem keeps_poll : Keeps (fun _ _ => True) Dispatches (poll fuel) h := by
  refine Prog.keeps_iterate (fun _ h => ?_) fuel () h
  refine Prog.keeps_emit_bind (fun _ => dispatches_quiet nofun nofun) fun report => ?_
  cases report with
  | none => trivial
  | some report =>
    obtain ⟨correlationId, error⟩ := report
    refine Prog.Safe.keeps_bind (Q := fun _ _ => True) ?_ fun _ _ _ => trivial
    cases correlationId with
    | none => trivial
    | some id =>
      cases error with
      | none => trivial
      | some errstr =>
        refine Prog.keeps_emit_bind (fun found => dispatches_pending ?_) fun _ => trivial
        exact .undelivered id errstr found List.mem_cons_self

theorem keeps_dispatcher : Keeps (fun _ _ => True) Dispatches (dispatcher fuel) [] := by
  refine Prog.Safe.keeps_bind (Q := fun _ _ => True) ?_ fun _ _ _ => Prog.keeps_emit fun _ => dispatches_quiet nofun nofun
  refine Prog.keeps_iterate (fun _ h => ?_) fuel () []
  refine Prog.keeps_emit_bind (fun _ => dispatches_quiet nofun nofun) fun stopping => ?_
  split
  · trivial
  refine keeps_poll.keeps_bind fun _ h _ => ?_
  refine Prog.keeps_emit_bind (fun _ => dispatches_quiet nofun nofun) fun consumed => ?_
  cases consumed with
  | record record =>
    refine Prog.Safe.keeps_bind (Q := fun _ _ => True) ?_ fun _ _ _ => trivial
    unfold dispatchRecord
    split
    · trivial
    rename_i hnamed
    refine Prog.keeps_emit_bind (fun found => dispatches_pending ?_) fun _ => trivial
    exact .reply record found List.mem_cons_self (by simpa using hnamed)
  | _ => trivial

theorem keeps_destroyClient : Keeps (fun _ _ => True) Dispatches (destroyClient fuel) [] := by
  refine Prog.keeps_emit_bind (fun _ => dispatches_quiet nofun nofun) fun _ => ?_
  refine Prog.keeps_emit_bind (fun _ => dispatches_quiet nofun nofun) fun _ => ?_
  exact Prog.keeps_emit_bind (fun _ => dispatches_pending .closed) fun _ => keeps_poll

end Dispatcher

section Server

variable {config : KafkaServerConfig} {fuel : Nat} {h : List Event}

theorem replies_quiet {e : Event}
    (he : ∀ topic correlationId payload error, e ≠ .produce topic correlationId payload error) :
    Replies config h e := fun _ _ _ _ heq => absurd heq (he _ _ _ _)

theorem keeps_commitSync (record : Record) : Keeps (fun _ _ => True) (Replies config) (commitSync record) h :=
  Prog.keeps_emit_bind (fun _ => replies_quiet nofun) fun _ => trivial

theorem keeps_reply {record : Record} {writes : List (Option Bytes)} (hr : .consume (.record record) ∈ h) :
    Keeps (fun _ _ => True) (Replies config)
      (reply (replyToOf config record) (correlationIdOf record) (responseOf writes))
      (.processMessage record.payload writes (.ok true) :: h) := by
  unfold reply
  split
  · trivial
  refine Prog.Safe.keeps_bind (Q := fun _ _ => True) ?_ fun _ _ _ => ?_
  · refine Prog.keeps_emit_bind (fun error => ?_) fun error => ?_
    · intro topic correlationId payload error' heq
      cases heq
      exact ⟨record, writes, h, List.mem_cons_of_mem _ hr, rfl, rfl, rfl, rfl⟩
    · cases error <;> trivial
  · exact Prog.keeps_emit_bind (fun _ => replies_quiet nofun) fun _ => trivial

theorem keeps_handleRecord {record : Record} (hr : .consume (.record record) ∈ h) :
    Keeps (fun _ _ => True) (Replies config) (handleRecord config record) h := by
  refine Prog.keeps_emit_bind (fun _ => replies_quiet nofun) fun configured => ?_
  split
  · exact keeps_commitSync record
  rw [Keeps, Prog.safe_bind, processMessage, Prog.safe_bind, Prog.safe_emit]
  rintro ⟨writes, result⟩ -
  refine ⟨replies_quiet nofun, ?_⟩
  rw [Prog.andThen_ok, Prog.safe_ofExcept]
  match result with
  | .error e => trivial
  | .ok false => exact keeps_commitSync record
  | .ok true =>
    have hr' := List.mem_cons_of_mem (Event.processConfigured configured) hr
    exact (keeps_reply hr').keeps_bind fun _ _ _ => keeps_commitSync record

theorem keeps_receive : Keeps (fun _ _ => True) (Replies config) (receive config fuel) h := by
  refine Prog.keeps_iterate (fun _ h => ?_) fuel () h
  refine Prog.keeps_emit_bind (fun _ => replies_quiet nofun) fun running => ?_
  split
  · trivial
  refine Prog.keeps_emit_bind (fun _ => replies_quiet nofun) fun consumed => ?_
  cases consumed with
  | record record => exact (keeps_handleRecord List.mem_cons_self).keeps_bind fun _ _ _ => trivial
  | _ => trivial

theorem keeps_subscribe (topic : Text) : Keeps (fun _ _ => True) (Replies config) (subscribe topic) h := by
  refine Prog.keeps_emit_bind (fun _ => replies_quiet nofun) fun error => ?_
  cases error <;> trivial

theorem keeps_consumeAndClose : Keeps (fun _ _ => True) (Replies config) (consumeAndClose config fuel) h := by
  refine Prog.Safe.keeps_bind (Q := fun _ _ => True) (Prog.Safe.keeps_attempt (Prog.keeps_call fun _ => replies_quiet nofun))
    fun consumer h _ => ?_
  cases consumer with
  | none => trivial
  | some u =>
    refine Prog.Safe.keeps_bind (Q := fun _ _ => True) (Prog.Safe.keeps_attempt ?_) fun _ h _ => ?_
    · exact (keeps_subscribe config.requestTopic).keeps_bind fun _ h _ => keeps_receive
    · exact Prog.Safe.keeps_bind (Q := fun _ _ => True)
        (Prog.Safe.keeps_attempt (Prog.keeps_call fun _ => replies_quiet nofun)) fun _ _ _ => trivial

theorem keeps_loop : Keeps (fun _ _ => True) (Replies config) (loop config fuel) [] := by
  refine Prog.keeps_iterate (fun _ h => ?_) fuel () []
  refine Prog.keeps_emit_bind (fun _ => replies_quiet nofun) fun running => ?_
  split
  · trivial
  refine Prog.Safe.keeps_bind (Q := fun _ _ => True) ?_ fun _ _ _ => trivial
  refine Prog.Safe.keeps_bind (Q := fun _ _ => True) (Prog.Safe.keeps_attempt (Prog.keeps_call fun _ => replies_quiet nofun))
    fun producer h _ => ?_
  cases producer with
  | none => trivial
  | some u =>
    refine keeps_consumeAndClose.keeps_bind fun _ h _ => ?_
    exact Prog.keeps_emit_bind (fun _ => replies_quiet nofun) fun _ => trivial

end Server

/-! ## The system -/

/-- An event of a client's thread, or of a gateway. -/
inductive RpcEvent where
  | client (event : ClientEvent)
  | server (event : Event)

/-- The threads: a call, the dispatcher of a client, its destructor, and the loop of a gateway. -/
inductive Actor (Call Client Server : Type) where
  | call (k : Call)
  | dispatcher (c : Client)
  | destructor (c : Client)
  | server (s : Server)
  deriving DecidableEq

/-- Who calls what. -/
structure Deployment (Call Client Server : Type) where
  client : Client → KafkaClientConfig
  server : Server → KafkaServerConfig
  owner : Call → Client
  data : Call → Option Bytes
  len : Call → Nat

variable {Call Client Server : Type}

namespace Deployment

variable (D : Deployment Call Client Server)

def config (k : Call) : KafkaClientConfig := D.client (D.owner k)

def payload (k : Call) : Bytes := payloadOf (D.data k) (D.len k)

/-- The map a thread works on. -/
def wiring : Wiring (Actor Call Client Server) RpcEvent Client where
  clientOf
    | .call k       => some (D.owner k)
    | .dispatcher c => some c
    | .destructor c => some c
    | .server _     => none
  event event := .client (.pending event)
  event?
    | .client (.pending event) => some event
    | _                        => none
  event?_iff e x := by
    rcases e with e | e
    · cases e <;> simp
    · simp

end Deployment

/-- The headers of a gateway's reply. -/
def replyHeaders (correlationId : Option Text) : List (Text × Text) :=
  match correlationId with
  | some id => [("correlation-id".toList, id)]
  | none    => []

/-- Somebody produced it, whatever came of that. -/
def Produced (t : List (Actor Call Client Server × RpcEvent)) (a : Actor Call Client Server) (topic : Text)
    (headers : List (Text × Text)) (payload : Bytes) : Prop :=
  (∃ tag error, (a, .client (.produce topic headers payload tag error)) ∈ t) ∨
    ∃ correlationId error, (a, .server (.produce topic correlationId payload error)) ∈ t ∧
      headers = replyHeaders correlationId

/-- A record as somebody produced it to the topic. -/
def Carries (t : List (Actor Call Client Server × RpcEvent)) (topic : Text) (record : Record) : Prop :=
  ∃ a headers, Produced t a topic headers record.payload ∧
    ∀ name, (record.headers.lookup name).join = headers.lookup name

/-- The broker forges nothing and alters nothing. -/
structure Delivers (D : Deployment Call Client Server) (t : List (Actor Call Client Server × RpcEvent)) : Prop where
  replies : ∀ a c record, D.wiring.clientOf a = some c → (a, .client (.consume (.record record))) ∈ t →
    Carries t (D.client c).replyTopic record
  requests : ∀ s record, (.server s, .server (.consume (.record record))) ∈ t →
    Carries t (D.server s).requestTopic record

/-- Replies go to topics that no gateway consumes. -/
structure Apart (D : Deployment Call Client Server) : Prop where
  calls : ∀ s k, (D.server s).requestTopic ≠ (D.config k).replyTopic
  gateways : ∀ s s', (D.server s).requestTopic ≠ (D.server s').replyTopic
  requests : ∀ k k', (D.config k').requestTopic ≠ (D.config k).replyTopic

variable [DecidableEq Call] [DecidableEq Client] [DecidableEq Server]

/-- An execution, and what each call has come to. -/
structure Execution (D : Deployment Call Client Server) (t : List (Actor Call Client Server × RpcEvent))
    (outcome : Call → Outcome Exn Bytes) : Prop where
  calls : ∀ k, ∃ fuel, ((callClient (D.config k) (D.data k) (D.len k) fuel).under RpcEvent.client).Runs
    (ofActor (.call k) t) (outcome k)
  dispatchers : ∀ c, ∃ fuel o, ((dispatcher fuel).under RpcEvent.client).Runs (ofActor (.dispatcher c) t) o
  destructors : ∀ c, ∃ fuel o, ((destroyClient fuel).under RpcEvent.client).Runs (ofActor (.destructor c) t) o
  servers : ∀ s, ∃ fuel o, ((loop (D.server s) fuel).under RpcEvent.server).Runs (ofActor (.server s) t) o
  maps : ∀ c, ∃ (actions : List (PendingReplies.Action Call)) (state : PendingReplies.State Call),
    Machine.run PendingReplies.step .init actions = some (state, D.wiring.events c t)
  delivers : Delivers D t
  distinct : ∀ k k' id, (Actor.call k, RpcEvent.client (.newCorrelationId id)) ∈ t →
    (Actor.call k', RpcEvent.client (.newCorrelationId id)) ∈ t → k = k'

/-- The reply of a gateway's handler that succeeded on `payload`, produced for `id`. -/
def AnsweredBy (t : List (Actor Call Client Server × RpcEvent)) (s : Server) (payload : Bytes) (id : Text)
    (bytes : Bytes) : Prop :=
  ∃ before writes topic error after, bytes = responseOf writes ∧
    ofActor (.server s) t = before ++ .server (.processMessage payload writes (.ok true)) ::
      .server (.produce topic (some id) bytes error) :: after

section Run

variable {D : Deployment Call Client Server} {t : List (Actor Call Client Server × RpcEvent)}
  {outcome : Call → Outcome Exn Bytes}

theorem client_injective : Function.Injective RpcEvent.client := fun _ _ h => RpcEvent.client.inj h

theorem server_injective : Function.Injective RpcEvent.server := fun _ _ h => RpcEvent.server.inj h

theorem Execution.call_at (hx : Execution D t outcome) {k : Call} {e : ClientEvent}
    {before after : List (Actor Call Client Server × RpcEvent)} (ht : t = before ++ (.call k, .client e) :: after) :
    ∃ h, Clients.CallDiscipline h e ∧ Produces (D.config k) (D.payload k) h e ∧
      ∀ x, x ∈ h ↔ (.call k, .client x) ∈ before := by
  obtain ⟨fuel, hr⟩ := hx.calls k
  have hkeeps : Keeps (fun _ _ => True) (Produces (D.config k) (D.payload k))
      (callClient (D.config k) (D.data k) (D.len k) fuel) [] := keeps_callClient (D.data k) (D.len k)
  have hsafe := (Clients.safe_callClient (D.data k) (D.len k)).and hkeeps
  obtain ⟨h, hd, -, hm⟩ := discipline_under client_injective hsafe hr ht
  exact ⟨h, hd.1, hd.2, hm⟩

/-- A thread of a client that is no call. -/
def Aside (c : Client) (a : Actor Call Client Server) : Prop := a = .dispatcher c ∨ a = .destructor c

theorem Execution.aside_at (hx : Execution D t outcome) {c : Client} {a : Actor Call Client Server} (ha : Aside c a)
    {e : ClientEvent} {before after : List (Actor Call Client Server × RpcEvent)}
    (ht : t = before ++ (a, .client e) :: after) :
    ∃ h, Dispatches h e ∧ ∀ x, x ∈ h ↔ (a, .client x) ∈ before := by
  rcases ha with rfl | rfl
  · obtain ⟨fuel, o, hr⟩ := hx.dispatchers c
    obtain ⟨h, hd, -, hm⟩ := discipline_under client_injective keeps_dispatcher hr ht
    exact ⟨h, hd, hm⟩
  · obtain ⟨fuel, o, hr⟩ := hx.destructors c
    obtain ⟨h, hd, -, hm⟩ := discipline_under client_injective keeps_destroyClient hr ht
    exact ⟨h, hd, hm⟩

theorem Execution.server_at (hx : Execution D t outcome) {s : Server} {e : Event}
    {before after : List (Actor Call Client Server × RpcEvent)} (ht : t = before ++ (.server s, .server e) :: after) :
    ∃ h, Replies (D.server s) h e ∧ ofActor (.server s) before = h.reverse.map RpcEvent.server ∧
      ∀ x, x ∈ h ↔ (.server s, .server x) ∈ before := by
  obtain ⟨fuel, o, hr⟩ := hx.servers s
  exact discipline_under server_injective keeps_loop hr ht

/-- Whose event it is. -/
theorem Execution.server_of_event (hx : Execution D t outcome) {a : Actor Call Client Server} {e : Event}
    (hm : (a, RpcEvent.server e) ∈ t) : ∃ s, a = .server s := by
  cases a with
  | call k =>
    obtain ⟨fuel, hr⟩ := hx.calls k
    obtain ⟨e', he⟩ := event_of_under hr hm
    cases he
  | dispatcher c =>
    obtain ⟨fuel, o, hr⟩ := hx.dispatchers c
    obtain ⟨e', he⟩ := event_of_under hr hm
    cases he
  | destructor c =>
    obtain ⟨fuel, o, hr⟩ := hx.destructors c
    obtain ⟨e', he⟩ := event_of_under hr hm
    cases he
  | server s => exact ⟨s, rfl⟩

theorem Execution.not_server_of_event (hx : Execution D t outcome) {s : Server} {e : ClientEvent} :
    (Actor.server s, RpcEvent.client e) ∉ t := by
  intro hm
  obtain ⟨fuel, o, hr⟩ := hx.servers s
  obtain ⟨e', he⟩ := event_of_under hr hm
  cases he

/-! ### The maps -/

theorem registered_of_ticketOf : ∀ {h : List ClientEvent} {id : Text} {slot : SlotRef},
    Clients.ticketOf h = some (id, slot) → .pending (.registered id slot) ∈ h
  | e :: h, id, slot, ht => by
    unfold Clients.ticketOf at ht
    split at ht
    · cases ht
    · rename_i heq
      cases heq
      cases ht
      exact List.mem_cons_self
    · cases ht
    · rename_i heq
      cases heq
      exact List.mem_cons_of_mem _ (registered_of_ticketOf ht)

theorem Execution.waiting (hx : Execution D t outcome) : Waiting Call D.wiring t where
  maps := hx.maps
  waits before a after slot r c ha ht := by
    have haside : ∀ c', ¬ Aside c' a := fun c' hb => by
      obtain ⟨h, hd, -⟩ := hx.aside_at hb ht
      cases hd.finishes _ rfl
    cases a with
    | call k =>
      obtain ⟨h, hd, -, hm⟩ := hx.call_at ht
      obtain ⟨id, hreg⟩ := hd
      exact ⟨⟨id, (hm _).1 (registered_of_ticketOf hreg.ticket)⟩, fun slot' r' hw => hreg.unwaited slot' r' ((hm _).2 hw)⟩
    | dispatcher c' => exact absurd (Or.inl rfl) (haside c')
    | destructor c' => exact absurd (Or.inr rfl) (haside c')
    | server s => cases ha

/-- What finishes an id with bytes is the dispatcher, with a record it consumed for it. -/
theorem Execution.completes (hx : Execution D t outcome) {c : Client} {a : Actor Call Client Server}
    {x : PendingReplies.Event} {id : Text} {bytes : Bytes} (ha : D.wiring.clientOf a = some c)
    (hm : (a, RpcEvent.client (.pending x)) ∈ t) (hr : finishFor id x = some (.returned bytes)) :
    ∃ record, Carries t (D.client c).replyTopic record ∧ correlationIdOf record = id ∧ id ≠ [] ∧
      record.payload = bytes := by
  obtain ⟨before, after, ht⟩ := List.append_of_mem hm
  have haside : ∀ c', Aside c' a → ∃ record, Carries t (D.client c).replyTopic record ∧ correlationIdOf record = id ∧
      id ≠ [] ∧ record.payload = bytes := fun c' hb => by
    obtain ⟨h, hd, hmem⟩ := hx.aside_at hb ht
    cases hd.finishes x rfl with
    | reply record found hconsumed hnamed =>
      simp only [finishFor, Option.ite_none_right_eq_some, Option.some.injEq, WaitResult.returned.injEq] at hr
      obtain ⟨rfl, rfl⟩ := hr
      refine ⟨record, hx.delivers.replies a c record ha ?_, rfl, hnamed, rfl⟩
      rw [ht]
      exact List.mem_append_left _ ((hmem _).1 hconsumed)
    | undelivered id' errstr found hreported => simp [finishFor] at hr
    | closed => simp [finishFor] at hr
  cases a with
  | call k =>
    obtain ⟨h, -, hd, -⟩ := hx.call_at ht
    rw [hd.finishes x id rfl] at hr
    cases hr
  | dispatcher c' => exact haside c' (Or.inl rfl)
  | destructor c' => exact haside c' (Or.inr rfl)
  | server s => cases ha

/-! ### What is produced -/

theorem Execution.call_produces (hx : Execution D t outcome) {k : Call} {topic : Text} {headers : List (Text × Text)}
    {payload : Bytes} (hp : Produced t (.call k) topic headers payload) :
    topic = (D.config k).requestTopic ∧ payload = D.payload k ∧
      ∃ id, (Actor.call k, RpcEvent.client (.newCorrelationId id)) ∈ t ∧
        headers = makeRpcHeaders id (D.config k).replyTopic := by
  rcases hp with ⟨tag, error, hm⟩ | ⟨correlationId, error, hm, -⟩
  · obtain ⟨before, after, ht⟩ := List.append_of_mem hm
    obtain ⟨h, -, hd, hmem⟩ := hx.call_at ht
    obtain ⟨htopic, hpayload, id, hid, hheaders⟩ := hd.produces _ _ _ _ _ rfl
    refine ⟨htopic, hpayload, id, ?_, hheaders⟩
    rw [ht]
    exact List.mem_append_left _ ((hmem _).1 hid)
  · obtain ⟨s, hs⟩ := hx.server_of_event hm
    cases hs

theorem Execution.aside_produces (hx : Execution D t outcome) {c : Client} {a : Actor Call Client Server}
    (ha : Aside c a) {topic : Text} {headers : List (Text × Text)} {payload : Bytes} :
    ¬ Produced t a topic headers payload := by
  rintro (⟨tag, error, hm⟩ | ⟨correlationId, error, hm, -⟩)
  · obtain ⟨before, after, ht⟩ := List.append_of_mem hm
    obtain ⟨h, hd, -⟩ := hx.aside_at ha ht
    exact hd.produces _ _ _ _ _ rfl
  · obtain ⟨s, rfl⟩ := hx.server_of_event hm
    rcases ha with heq | heq <;> cases heq

/-- What a gateway produces answers a record it consumed. -/
theorem Execution.server_produces (hx : Execution D t outcome) {s : Server} {topic : Text}
    {headers : List (Text × Text)} {payload : Bytes} (hp : Produced t (.server s) topic headers payload) :
    ∃ record, Carries t (D.server s).requestTopic record ∧ topic = replyToOf (D.server s) record ∧
      headers = replyHeaders (replyHeader (correlationIdOf record)) ∧
      (correlationIdOf record ≠ [] → AnsweredBy t s record.payload (correlationIdOf record) payload) := by
  rcases hp with ⟨tag, error, hm⟩ | ⟨correlationId, error, hm, rfl⟩
  · exact absurd hm hx.not_server_of_event
  obtain ⟨before, after, ht⟩ := List.append_of_mem hm
  obtain ⟨h, hd, hbefore, hmem⟩ := hx.server_at ht
  obtain ⟨record, writes, earlier, hconsumed, hh, rfl, rfl, rfl⟩ := hd _ _ _ _ rfl
  refine ⟨record, hx.delivers.requests s record ?_, rfl, rfl, fun hnamed => ?_⟩
  · rw [ht]
    exact List.mem_append_left _ ((hmem _).1 hconsumed)
  · refine ⟨earlier.reverse.map RpcEvent.server, writes, replyToOf (D.server s) record, error,
      ofActor (.server s) after, rfl, ?_⟩
    have hheader : replyHeader (correlationIdOf record) = some (correlationIdOf record) := if_neg (by simpa using hnamed)
    rw [ht, ofActor_append, ofActor_cons_self, hbefore, hh, hheader]
    simp

theorem headerValue_of_lookup {record : Record} {name : Text} {headers : List (Text × Text)}
    (h : (record.headers.lookup name).join = headers.lookup name) :
    headerValue record name = (headers.lookup name).getD [] := by
  rw [headerValue, h]

theorem lookup_replyTo_replyHeaders (correlationId : Option Text) :
    (replyHeaders correlationId).lookup "reply-to".toList = none := by
  cases correlationId with
  | none => rfl
  | some id => rfl

/-- A record a gateway consumed was produced by a call: replies go elsewhere. -/
theorem Execution.request_of_consumed (hx : Execution D t outcome) (hapart : Apart D) {s : Server} {record : Record}
    (hr : Carries t (D.server s).requestTopic record) :
    ∃ k, (Actor.call k, RpcEvent.client (.newCorrelationId (correlationIdOf record))) ∈ t ∧
      record.payload = D.payload k := by
  obtain ⟨a, headers, hp, hheaders⟩ := hr
  cases a with
  | call k =>
    obtain ⟨-, hpayload, id, hid, rfl⟩ := hx.call_produces hp
    refine ⟨k, ?_, hpayload⟩
    have hcid : correlationIdOf record = id := headerValue_of_lookup (hheaders _)
    rwa [hcid]
  | dispatcher c => exact absurd hp (hx.aside_produces (c := c) (Or.inl rfl))
  | destructor c => exact absurd hp (hx.aside_produces (c := c) (Or.inr rfl))
  | server s' =>
    -- a reply went to the topic its request named, or to the gateway's own
    obtain ⟨request, ⟨b, headers', hp', hheaders'⟩, htopic, -⟩ := hx.server_produces hp
    unfold replyToOf at htopic
    dsimp only at htopic
    split at htopic
    · exact absurd htopic (hapart.gateways s s')
    rename_i hnamed
    rw [headerValue_of_lookup (hheaders' _)] at htopic hnamed
    cases b with
    | call k =>
      obtain ⟨-, -, id, -, rfl⟩ := hx.call_produces hp'
      unfold makeRpcHeaders at htopic hnamed
      split at htopic
      · rename_i hempty
        rw [if_pos hempty] at hnamed
        exact absurd rfl hnamed
      · exact absurd htopic (hapart.calls s k)
    | dispatcher c => exact absurd hp' (hx.aside_produces (c := c) (Or.inl rfl))
    | destructor c => exact absurd hp' (hx.aside_produces (c := c) (Or.inr rfl))
    | server s'' =>
      obtain ⟨request', -, -, rfl, -⟩ := hx.server_produces hp'
      rw [lookup_replyTo_replyHeaders] at hnamed
      exact absurd rfl hnamed

/-- **End-to-end correctness**: what a call returns is what some gateway's handler wrote, in a run that succeeded, on that
call's payload, and the gateway produced it for the id that this call alone made. -/
theorem returns_own_record (hx : Execution D t outcome) (hapart : Apart D) {k : Call} {bytes : Bytes}
    (hret : outcome k = .done bytes) :
    ∃ id s, (Actor.call k, RpcEvent.client (.newCorrelationId id)) ∈ t ∧ AnsweredBy t s (D.payload k) id bytes := by
  -- the call has waited for what it returns, with the ticket of an id it made
  obtain ⟨fuel, hrun⟩ := hx.calls k
  obtain ⟨u, hu, hr⟩ := Prog.runs_under.1 hrun
  rw [hret] at hr
  obtain ⟨id', slot, later, earlier, hh, -⟩ :=
    (Clients.safe_callClient (D.data k) (D.len k)).post hr (Prog.admits_true _ _) bytes rfl
  have hwaited : (Actor.call k, RpcEvent.client (.pending (.waited slot (.returned bytes)))) ∈ t := by
    rw [← mem_ofActor, hu]
    refine List.mem_map_of_mem (List.mem_reverse.1 ?_)
    rw [List.append_nil] at hh
    rw [hh]
    simp
  obtain ⟨before, after, ht⟩ := List.append_of_mem hwaited
  obtain ⟨id, pre, mid, rfl, hout⟩ := hx.waiting.outcome (a := .call k) (c := D.owner k) rfl ht
  have hreg : t = pre ++ (.call k, .client (.pending (.registered id slot))) ::
      (mid ++ (.call k, .client (.pending (.waited slot (.returned bytes)))) :: after) := by
    rw [ht]
    simp [Deployment.wiring]
  obtain ⟨h, ⟨-, hid⟩, -, hmem⟩ := hx.call_at hreg
  have hmade : (Actor.call k, RpcEvent.client (.newCorrelationId id)) ∈ t := by
    rw [hreg]
    exact List.mem_append_left _ ((hmem _).1 hid)
  -- so its dispatcher consumed a record with it
  rcases PendingReplies.outcome_cases hout with ⟨hnot, -⟩ | ⟨-, a, x, ha, hm, hfin⟩
  · cases hnot
  have hin : (a, RpcEvent.client (.pending x)) ∈ t := by
    rw [hreg]
    simp only [List.mem_append, List.mem_cons]
    exact Or.inr (Or.inr (Or.inl hm))
  obtain ⟨record, ⟨b, headers, hp, hheaders⟩, hrid, hne, rfl⟩ := hx.completes ha hin hfin
  -- which a gateway produced for a request
  cases b with
  | call k' =>
    obtain ⟨htopic, -⟩ := hx.call_produces hp
    exact absurd htopic.symm (hapart.requests k k')
  | dispatcher c => exact absurd hp (hx.aside_produces (c := c) (Or.inl rfl))
  | destructor c => exact absurd hp (hx.aside_produces (c := c) (Or.inr rfl))
  | server s =>
    obtain ⟨request, hrequest, -, rfl, hanswered⟩ := hx.server_produces hp
    have hcid : correlationIdOf request = id := by
      have hvalue : correlationIdOf record = _ := headerValue_of_lookup (hheaders "correlation-id".toList)
      rw [hrid] at hvalue
      cases hempty : correlationIdOf request with
      | nil =>
        rw [hempty] at hvalue
        exact absurd hvalue hne
      | cons c cs =>
        rw [hempty] at hvalue
        exact hvalue.symm
    obtain ⟨k', hmade', hpayload⟩ := hx.request_of_consumed hapart hrequest
    rw [hcid] at hmade'
    obtain rfl := hx.distinct k k' id hmade hmade'
    rw [hcid, hpayload] at hanswered
    exact ⟨id, s, hmade, hanswered hne⟩

end Run

/-! ### An execution -/

section Demo

def demo : Deployment Unit Unit Unit where
  client _ := {}
  server _ := {}
  owner _ := ()
  data _ := some [1]
  len _ := 1

def demoHeaders : List (Text × Text) := makeRpcHeaders ['x'] "graft.replies".toList

def demoRequest : Record := ⟨0, 0, [1], demoHeaders.map fun header => (header.1, some header.2)⟩

def demoReply : Record := ⟨0, 0, [7], [("correlation-id".toList, some ['x'])]⟩

def demoCall : List ClientEvent :=
  [.startedLoaded true, .newCorrelationId ['x'], .pending (.registered ['x'] 0),
    .produce "graft.requests".toList demoHeaders [1] ['x'] none]

def demoReturn : List ClientEvent := [.pending (.waited 0 (.returned [7])), .pending .destroyed]

def demoServe : List Event :=
  [.running true, .createProducer (.ok ()), .createConsumer (.ok ()), .subscribe "graft.requests".toList none,
    .running true, .consume (.record demoRequest), .processConfigured true,
    .processMessage [1] [some [7]] (.ok true), .produce "graft.replies".toList (some ['x']) [7] none]

def demoDispatch : List ClientEvent :=
  [.stoppingLoaded false, .deliveryReport none, .consume (.record demoReply), .pending (.completed ['x'] [7] true)]

def demoTrace : List (Actor Unit Unit Unit × RpcEvent) :=
  demoCall.map (fun e => (.call (), .client e)) ++ demoServe.map (fun e => (.server (), .server e)) ++
    demoDispatch.map (fun e => (.dispatcher (), .client e)) ++ demoReturn.map (fun e => (.call (), .client e))

theorem demoCall_runs : (callClient {} (some [1]) 1 1).Runs (demoCall ++ demoReturn) (.done [7]) := by
  refine Prog.runs_ask.2 ⟨true, rfl, Prog.runs_ask.2 ⟨['x'], rfl, Prog.runs_ask.2 ⟨.ok 0, rfl, ?_⟩⟩⟩
  refine Prog.runs_ask.2 ⟨none, rfl, Prog.runs_ask.2 ⟨.returned [7], rfl, Prog.runs_ask.2 ⟨(), rfl, ?_⟩⟩⟩
  exact ⟨rfl, rfl⟩

theorem demoServe_runs : (loop {} 1).Runs demoServe .cut := by
  refine Prog.runs_ask.2 ⟨true, rfl, Prog.runs_ask.2 ⟨.ok (), rfl, Prog.runs_ask.2 ⟨.ok (), rfl, ?_⟩⟩⟩
  refine Prog.runs_ask.2 ⟨none, rfl, Prog.runs_ask.2 ⟨true, rfl, Prog.runs_ask.2 ⟨.record demoRequest, rfl, ?_⟩⟩⟩
  refine Prog.runs_ask.2 ⟨true, rfl, Prog.runs_ask.2 ⟨([some [7]], .ok true), rfl, ?_⟩⟩
  exact Prog.runs_ask.2 ⟨none, rfl, Prog.runs_ask_cut _ _⟩

theorem demoDispatch_runs : (dispatcher 2).Runs demoDispatch .cut := by
  refine Prog.runs_ask.2 ⟨false, rfl, Prog.runs_ask.2 ⟨none, rfl, Prog.runs_ask.2 ⟨.record demoReply, rfl, ?_⟩⟩⟩
  exact Prog.runs_ask.2 ⟨true, rfl, Prog.runs_ask_cut _ _⟩

theorem join_lookup_some (headers : List (Text × Text)) (name : Text) :
    ((headers.map fun header => (header.1, some header.2)).lookup name).join = headers.lookup name := by
  induction headers with
  | nil => rfl
  | cons header headers ih =>
    rw [List.map_cons, List.lookup_cons, List.lookup_cons]
    split
    · rfl
    · exact ih

theorem mem_demoTrace {e : Event} (h : e ∈ demoServe) : (Actor.server (), RpcEvent.server e) ∈ demoTrace := by
  simp [demoTrace, h]

theorem mem_demoTrace_call {e : ClientEvent} (h : e ∈ demoCall) : (Actor.call (), RpcEvent.client e) ∈ demoTrace := by
  simp [demoTrace, h]

theorem demo_delivers : Delivers demo demoTrace where
  replies a c record _ hm := by
    simp only [demoTrace, demoCall, demoServe, demoDispatch, demoReturn, List.map_cons, List.map_nil, List.cons_append,
      List.nil_append, List.mem_cons, Prod.mk.injEq, reduceCtorEq, RpcEvent.client.injEq, ClientEvent.consume.injEq,
      Consumed.record.injEq, and_false, false_or, List.not_mem_nil, or_false] at hm
    obtain ⟨-, rfl⟩ := hm
    have hproduced : Event.produce "graft.replies".toList (some ['x']) [7] none ∈ demoServe := by
      simp only [demoServe, List.mem_cons, true_or, or_true]
    refine ⟨.server (), replyHeaders (some ['x']), Or.inr ⟨some ['x'], none, mem_demoTrace hproduced, rfl⟩, ?_⟩
    exact join_lookup_some (replyHeaders (some ['x']))
  requests s record hm := by
    simp only [demoTrace, demoCall, demoServe, demoDispatch, demoReturn, List.map_cons, List.map_nil, List.cons_append,
      List.nil_append, List.mem_cons, Prod.mk.injEq, reduceCtorEq, RpcEvent.server.injEq, Event.consume.injEq,
      Consumed.record.injEq, and_false, false_or, List.not_mem_nil, or_false, true_and] at hm
    obtain rfl := hm
    have hproduced : ClientEvent.produce "graft.requests".toList demoHeaders [1] ['x'] none ∈ demoCall := by
      simp only [demoCall, List.mem_cons, true_or, or_true]
    exact ⟨.call (), demoHeaders, Or.inl ⟨['x'], none, mem_demoTrace_call hproduced⟩, join_lookup_some demoHeaders⟩

theorem demo_apart : Apart demo where
  calls _ _ := by
    change "graft.requests".toList ≠ "graft.replies".toList
    decide
  gateways _ _ := by
    change "graft.requests".toList ≠ "graft.replies".toList
    decide
  requests _ _ := by
    change "graft.requests".toList ≠ "graft.replies".toList
    decide

theorem demo_execution : Execution demo demoTrace fun _ => .done [7] where
  calls _ := ⟨1, Prog.runs_under.2 ⟨demoCall ++ demoReturn, rfl, demoCall_runs⟩⟩
  dispatchers _ := ⟨2, .cut, Prog.runs_under.2 ⟨demoDispatch, rfl, demoDispatch_runs⟩⟩
  destructors _ := ⟨1, .cut, Prog.runs_under.2 ⟨[], rfl, Or.inl ⟨rfl, rfl⟩⟩⟩
  servers _ := ⟨1, .cut, Prog.runs_under.2 ⟨demoServe, rfl, demoServe_runs⟩⟩
  maps _ := ⟨[.register () ['x'], .complete ['x'] [7], .wait (), .destroy ()], _, rfl⟩
  delivers := demo_delivers
  distinct _ _ _ _ _ := rfl

theorem returns_own_record_demo : ∃ id s, (Actor.call (), RpcEvent.client (.newCorrelationId id)) ∈ demoTrace ∧
    AnsweredBy demoTrace s [1] id [7] :=
  returns_own_record demo_execution demo_apart (k := ()) rfl

end Demo

end Rpc
end Kafka
end Graftcode
