import Graftcode.Interleaving
import Graftcode.PendingDelivery
import Graftcode.PubSubCalls
import Graftcode.PubSubServer
/-!
# PubSubRpc — calls, dispatchers and servers around one Pub/Sub service

The whole transport: any number of clients with any number of calls each, one dispatcher a client, and any number of
servers, every one of them the program of its own module.  An execution is one trace of all their events.  The service
may answer anything, lose, delay, reorder, duplicate and redeliver; what it delivers was published, to a topic that feeds
the subscription it is pulled from (`Delivers`).
-/
namespace Graftcode
namespace PubSub

/-- The threads: a call, the dispatcher of a client, its destructor, and the receive loop of a server. -/
inductive Actor (Call Client Server : Type) where
  | call (k : Call)
  | dispatcher (c : Client)
  | destructor (c : Client)
  | server (s : Server)
  deriving DecidableEq

/-- Who calls what, and which topic feeds which subscription, both by the address the plugin uses for it. -/
structure Deployment (Call Client Server : Type) where
  parse : Text → Option Json
  client : Client → PubSubConfig
  server : Server → PubSubConfig
  owner : Call → Client
  data : Call → Option Bytes
  size : Call → Nat
  feeds : (publishUrl pullUrl : Text) → Prop

/-- What a thread did to the map of its client. -/
def Event.pending? : Event → Option PendingReplies.Event
  | .pending event => some event
  | _              => none

variable {Call Client Server : Type} [DecidableEq Client]

namespace Deployment

variable (D : Deployment Call Client Server)

def config (k : Call) : PubSubConfig := D.client (D.owner k)

def payload (k : Call) : Bytes := payloadOf (D.data k) (D.size k)

/-- The client whose map a thread works on. -/
def clientOf : Actor Call Client Server → Option Client
  | .call k       => some (D.owner k)
  | .dispatcher c => some c
  | .destructor c => some c
  | .server _     => none

/-- What happened to the map of a client, in order. -/
def pendingEvents (c : Client) (t : List (Actor Call Client Server × Event)) : List PendingReplies.Event :=
  t.filterMap fun x => if D.clientOf x.1 = some c then x.2.pending? else none

end Deployment

section PendingEvents

variable {D : Deployment Call Client Server}

theorem mem_pendingEvents {c : Client} {event : PendingReplies.Event} {u : List (Actor Call Client Server × Event)} :
    event ∈ D.pendingEvents c u ↔ ∃ a, D.clientOf a = some c ∧ (a, .pending event) ∈ u := by
  unfold Deployment.pendingEvents
  rw [List.mem_filterMap]
  constructor
  · rintro ⟨⟨a, e⟩, hm, he⟩
    simp only [Option.ite_none_right_eq_some] at he
    obtain ⟨hc, he⟩ := he
    cases e <;> simp only [Event.pending?, reduceCtorEq, Option.some.injEq] at he
    rw [he] at hm
    exact ⟨a, hc, hm⟩
  · rintro ⟨a, hc, hm⟩
    exact ⟨_, hm, by simp [hc, Event.pending?]⟩

theorem pendingEvents_append (c : Client) (u v : List (Actor Call Client Server × Event)) :
    D.pendingEvents c (u ++ v) = D.pendingEvents c u ++ D.pendingEvents c v := List.filterMap_append ..

theorem pendingEvents_cons {a : Actor Call Client Server} {c : Client} (hc : D.clientOf a = some c)
    (event : PendingReplies.Event) (u : List (Actor Call Client Server × Event)) :
    D.pendingEvents c ((a, .pending event) :: u) = event :: D.pendingEvents c u := by
  simp [Deployment.pendingEvents, hc, Event.pending?]

end PendingEvents

variable [DecidableEq Call] [DecidableEq Server]

/-- Somebody published it, to the topic at `url`. -/
def Published (t : List (Actor Call Client Server × Event)) (url : Text) (data : Bytes)
    (attributes : List (Text × Text)) : Prop :=
  ∃ a config topic answer,
    (a, .request (publishRequest config topic data attributes) answer) ∈ t ∧ url = publishUrl config topic

/-- A message of an answer is one that was published; the service leaves empty data out. -/
structure Carries (message : Json) (data : Bytes) (attributes : List (Text × Text)) : Prop where
  data : message.findString? "data".toList = some (base64Encode data) ∨
    (message.findString? "data".toList = none ∧ data = [])
  attributes : ∀ name,
    ((message.findObject? "attributes".toList).elim [] Json.strings).lookup name = attributes.lookup name

/-- The service forges nothing and alters nothing. -/
def Deployment.Delivers (D : Deployment Call Client Server) (t : List (Actor Call Client Server × Event)) : Prop :=
  ∀ a config subscription n result items item message,
    (a, .request (pullRequest config subscription n) (.ok result)) ∈ t → 200 ≤ result.status → result.status < 300 →
    (D.parse result.body).bind (Json.findArray? "receivedMessages".toList) = some items → item ∈ items →
    item.findObject? "message".toList = some message →
    ∃ url data attributes, Published t url data attributes ∧ D.feeds url (pullUrl config subscription) ∧
      Carries message data attributes

/-- An execution, and what each call has come to. -/
structure Execution (D : Deployment Call Client Server) (t : List (Actor Call Client Server × Event))
    (outcome : Call → Outcome Error Bytes) : Prop where
  calls : ∀ k, ∃ fuel, (callClient (D.config k) (D.data k) (D.size k) fuel).Runs (ofActor (.call k) t) (outcome k)
  dispatchers : ∀ c, ∃ fuel o, (dispatchReplies D.parse (D.client c) fuel).Runs (ofActor (.dispatcher c) t) o
  destructors : ∀ c, ∃ o, destroyClient.Runs (ofActor (.destructor c) t) o
  servers : ∀ s, ∃ configured fuel fuel' o,
    (start D.parse (D.server s) configured fuel fuel').Runs (ofActor (.server s) t) o
  maps : ∀ c, ∃ (actions : List (PendingReplies.Action Call)) (state : PendingReplies.State Call),
    Machine.run PendingReplies.step .init actions = some (state, D.pendingEvents c t)
  delivers : D.Delivers t
  distinct : ∀ k k' id, (Actor.call k, Event.newCorrelationId id) ∈ t → (Actor.call k', Event.newCorrelationId id) ∈ t →
    k = k'

/-! ## What is delivered -/

theorem pulledMessage_carries {item : Json} {message : PulledMessage} (h : pulledMessage item = .ok message)
    {name value : Text} (hn : message.attributes.lookup name = some value) :
    ∃ payload, item.findObject? "message".toList = some payload ∧ ∀ data attributes, Carries payload data attributes →
      message.data = data ∧ ∀ name', message.attributes.lookup name' = attributes.lookup name' := by
  cases hp : item.findObject? "message".toList with
  | none =>
    unfold pulledMessage at h
    rw [hp] at h
    cases h
    cases hn
  | some payload =>
    refine ⟨payload, rfl, fun data attributes hc => ?_⟩
    rw [pulledMessage_message hp] at h
    rcases hc.data with hd | ⟨hd, rfl⟩
    · rw [hd] at h
      simp only [Option.elim, base64Decode_encode] at h
      cases h
      exact ⟨rfl, hc.attributes⟩
    · rw [hd] at h
      cases h
      exact ⟨rfl, hc.attributes⟩

/-! ## Who publishes what -/

/-- A server's handler succeeded on `payload`, and it published what the handler wrote, for `id`. -/
def AnsweredBy (D : Deployment Call Client Server) (t : List (Actor Call Client Server × Event)) (s : Server)
    (payload : Bytes) (id : Text) (bytes : Bytes) : Prop :=
  ∃ before writes topic answer after, bytes = responseOf writes ∧
    ofActor (.server s) t = before ++ processed payload writes ::
      .request (publishRequest (D.server s) topic (responseOf writes) [(correlationIdAttribute, id)]) answer :: after

section Run

variable {D : Deployment Call Client Server} {t : List (Actor Call Client Server × Event)}
  {outcome : Call → Outcome Error Bytes}

theorem Execution.call_admits (hx : Execution D t outcome) (k : Call) :
    Prog.Admits (CallDiscipline (D.config k) (D.payload k)) [] (ofActor (.call k) t) := by
  obtain ⟨fuel, hr⟩ := hx.calls k
  exact (safe_callClient (D.data k) (D.size k) fuel).admits hr (Prog.admits_true _ _)

theorem Execution.dispatcher_admits (hx : Execution D t outcome) (c : Client) :
    Prog.Admits (DispatchDiscipline D.parse (D.client c)) [] (ofActor (.dispatcher c) t) := by
  obtain ⟨fuel, o, hr⟩ := hx.dispatchers c
  exact (keeps_dispatchReplies fuel).admits hr (Prog.admits_true _ _)

theorem Execution.server_admits (hx : Execution D t outcome) (s : Server) :
    Prog.Admits (Discipline D.parse (D.server s)) [] (ofActor (.server s) t) := by
  obtain ⟨configured, fuel, fuel', o, hr⟩ := hx.servers s
  exact start_admits hr

theorem Execution.destructor_event (hx : Execution D t outcome) {c : Client} {e : Event}
    (hm : (Actor.destructor c, e) ∈ t) : ∃ what, e = .pending (.closed what) := by
  obtain ⟨o, hr⟩ := hx.destructors c
  rw [← mem_ofActor] at hm
  rcases hr with ⟨ht, -⟩ | ⟨u, t', ht, hk⟩
  · rw [ht] at hm; cases hm
  · rw [ht, hk.1, List.mem_singleton] at hm
    exact ⟨_, hm⟩

/-- A message that was pulled and names something was published, to a topic that feeds the subscription. -/
theorem Execution.published (hx : Execution D t outcome) {a : Actor Call Client Server} {config : PubSubConfig}
    {subscription : Text} {n : Nat} {answer : Except Error HttpResult} {batch : List PulledMessage}
    {message : PulledMessage} {name value : Text}
    (hm : (a, .request (pullRequest config subscription n) answer) ∈ t)
    (hp : pulled D.parse subscription answer = .ok batch) (hb : message ∈ batch)
    (hn : message.attributes.lookup name = some value) :
    ∃ b config' topic attributes answer',
      (b, .request (publishRequest config' topic message.data attributes) answer') ∈ t ∧
        D.feeds (publishUrl config' topic) (pullUrl config subscription) ∧
        ∀ name', message.attributes.lookup name' = attributes.lookup name' := by
  obtain ⟨result, items, item, rfl, hlo, hhi, hi, hitem, he⟩ := pulled_mem hp hb
  obtain ⟨payload, hpay, hread⟩ := pulledMessage_carries he hn
  obtain ⟨url, data, attributes, ⟨b, config', topic, answer', hmem, rfl⟩, hfeeds, hc⟩ :=
    hx.delivers a config subscription n result items item payload hm hlo hhi hi hitem hpay
  obtain ⟨rfl, hattr⟩ := hread data attributes hc
  exact ⟨b, config', topic, attributes, answer', hmem, hfeeds, hattr⟩

/-- What a call publishes is its payload, for an id it drew. -/
theorem Execution.call_publishes (hx : Execution D t outcome) {k : Call} {config : PubSubConfig} {topic : Text}
    {data : Bytes} {attributes : List (Text × Text)} {answer : Except Error HttpResult}
    (hm : (.call k, .request (publishRequest config topic data attributes) answer) ∈ t) :
    ∃ id, (.call k, .newCorrelationId id) ∈ t ∧
      publishUrl config topic = publishUrl (D.config k) (D.config k).requestTopic ∧
      data = D.payload k ∧ attributes = requestAttributes (D.config k) id := by
  obtain ⟨h, hd, hin⟩ := discipline_of_mem (hx.call_admits k) hm
  obtain ⟨id, hid, heq⟩ := hd.published config topic data attributes answer rfl
  obtain ⟨hurl, hdata, hattr⟩ := publishRequest_inj (Event.request.inj heq).1
  exact ⟨id, hin _ hid, hurl, hdata, hattr⟩

/-- What a server publishes answers a message it pulled, with the response its handler has just written. -/
theorem Execution.server_publishes (hx : Execution D t outcome) {s : Server} {config : PubSubConfig} {topic : Text}
    {data : Bytes} {attributes : List (Text × Text)} {answer : Except Error HttpResult}
    (hm : (.server s, .request (publishRequest config topic data attributes) answer) ∈ t) :
    ∃ answer' batch message value,
      (.server s, .request (pullRequest (D.server s) (D.server s).requestSubscription 1) answer') ∈ t ∧
        pulled D.parse (D.server s).requestSubscription answer' = .ok batch ∧ message ∈ batch ∧
        message.attributes.lookup replyToAttribute = some value ∧
        attributes = [(correlationIdAttribute, correlationIdOf message)] ∧
        AnsweredBy D t s message.data (correlationIdOf message) data := by
  obtain ⟨before, after, ht⟩ := List.append_of_mem hm
  have hd := discipline_at (hx.server_admits s) ht
  obtain ⟨batch, message, writes, earlier, hdel, hb, hvalid, hh, heq⟩ :=
    hd.2 config topic data attributes answer rfl
  obtain ⟨-, rfl, rfl⟩ := publishRequest_inj (Event.request.inj heq).1
  obtain ⟨later, answer', earlier', hsplit, hp, -⟩ := hdel
  have hpull :
      (Actor.server s, Event.request (pullRequest (D.server s) (D.server s).requestSubscription 1) answer') ∈ t := by
    rw [ht, ← mem_ofActor, ofActor_append, List.mem_append]
    refine Or.inl (List.mem_reverse.1 ?_)
    rw [hsplit]
    simp
  have hreply : ∃ value, message.attributes.lookup replyToAttribute = some value := by
    cases hl : message.attributes.lookup replyToAttribute with
    | some value => exact ⟨value, rfl⟩
    | none =>
      rw [attributeOf, hl] at hvalid
      cases hvalid
  obtain ⟨value, hvalue⟩ := hreply
  refine ⟨answer', batch, message, value, hpull, hp, hb, hvalue, rfl, earlier.reverse, writes,
    attributeOf message.attributes replyToAttribute, answer, ofActor (.server s) after, rfl, ?_⟩
  have hbefore : ofActor (.server s) before = earlier.reverse ++ [processed message.data writes] := by
    rw [← List.reverse_cons, ← hh, List.reverse_reverse]
  rw [ht, ofActor_append, ofActor_cons_self, hbefore, heq, List.append_assoc]
  rfl

/-! ## The map of a client -/

theorem Execution.not_registered_before (hx : Execution D t outcome) {c : Client} {a b : Actor Call Client Server}
    {before after : List (Actor Call Client Server × Event)} {id id' : Text} {slot : PendingReplies.SlotRef}
    (ha : D.clientOf a = some c) (hb : D.clientOf b = some c)
    (ht : t = before ++ (a, .pending (.registered id slot)) :: after) :
    (b, .pending (.registered id' slot)) ∉ before := by
  intro hm
  obtain ⟨actions, state, hrun⟩ := hx.maps c
  rw [ht, pendingEvents_append, pendingEvents_cons ha] at hrun
  exact PendingReplies.registered_once hrun (mem_pendingEvents.2 ⟨b, hb, hm⟩)

theorem Execution.registered_by (hx : Execution D t outcome) {c : Client} {a b : Actor Call Client Server}
    {id id' : Text} {slot : PendingReplies.SlotRef} (ha : D.clientOf a = some c) (hb : D.clientOf b = some c)
    (hma : (a, .pending (.registered id slot)) ∈ t) (hmb : (b, .pending (.registered id' slot)) ∈ t) : a = b := by
  obtain ⟨before, after, ht⟩ := List.append_of_mem hma
  rw [ht] at hmb
  rcases List.mem_append.1 hmb with hm | hm
  · exact absurd hm (hx.not_registered_before ha hb ht)
  rcases List.mem_cons.1 hm with heq | hm
  · exact (Prod.mk.inj heq).1.symm
  · obtain ⟨mid, rest, hafter⟩ := List.append_of_mem hm
    have ht' : t = (before ++ (a, .pending (.registered id slot)) :: mid) ++ (b, .pending (.registered id' slot)) ::
        rest := by
      rw [ht, hafter]
      simp
    have hin : (a, .pending (.registered id slot)) ∈ before ++ (a, .pending (.registered id slot)) :: mid := by simp
    exact absurd hin (hx.not_registered_before hb ha ht')

theorem Execution.waits (hx : Execution D t outcome) {c : Client} {a : Actor Call Client Server}
    {before after : List (Actor Call Client Server × Event)} {slot : PendingReplies.SlotRef}
    {r : PendingReplies.WaitResult} (ha : D.clientOf a = some c)
    (ht : t = before ++ (a, .pending (.waited slot r)) :: after) :
    ∃ id, (a, .newCorrelationId id) ∈ before ∧ (a, .pending (.registered id slot)) ∈ before ∧
      ∀ slot' r', (a, .pending (.waited slot' r')) ∉ before := by
  cases a with
  | call k =>
    obtain ⟨id, hid, hreg, hun⟩ := (discipline_at (hx.call_admits k) ht).waits slot r rfl
    rw [List.mem_reverse, mem_ofActor] at hid hreg
    refine ⟨id, hid, hreg, fun slot' r' hm => hun slot' r' ?_⟩
    rw [List.mem_reverse, mem_ofActor]
    exact hm
  | dispatcher c => exact absurd rfl ((discipline_at (hx.dispatcher_admits c) ht).unwaited slot r)
  | destructor c =>
    obtain ⟨what, heq⟩ := hx.destructor_event (e := .pending (.waited slot r)) (c := c) (by rw [ht]; simp)
    cases heq
  | server s => cases ha

/-- What completes an id on a map is the dispatcher, with a message it pulled for it. -/
theorem Execution.completes (hx : Execution D t outcome) {c : Client} {a : Actor Call Client Server} {id : Text}
    {bytes : Bytes} {found : Bool} (ha : D.clientOf a = some c) (hm : (a, .pending (.completed id bytes found)) ∈ t) :
    ∃ answer batch message, (Actor.dispatcher c,
        .request (pullRequest (D.client c) (D.client c).replySubscription (D.client c).maxMessages) answer) ∈ t ∧
      pulled D.parse (D.client c).replySubscription answer = .ok batch ∧ message ∈ batch ∧
      message.attributes.lookup correlationIdAttribute = some id ∧ message.data = bytes := by
  cases a with
  | call k =>
    obtain ⟨h, hd, -⟩ := discipline_of_mem (hx.call_admits k) hm
    exact absurd rfl (hd.uncompleted id bytes found)
  | dispatcher c' =>
    obtain rfl : c' = c := Option.some.inj ha
    obtain ⟨h, hd, hin⟩ := discipline_of_mem (hx.dispatcher_admits c') hm
    obtain ⟨answer, batch, message, ha, hp, hb, hid, hdata⟩ := hd.completed id bytes found rfl
    exact ⟨answer, batch, message, hin _ ha, hp, hb, hid, hdata⟩
  | destructor c' =>
    obtain ⟨what, heq⟩ := hx.destructor_event hm
    cases heq
  | server s => cases ha

theorem Execution.waited_completed (hx : Execution D t outcome) {k : Call} {slot : PendingReplies.SlotRef}
    {bytes : Bytes} (hm : (.call k, .pending (.waited slot (.returned bytes))) ∈ t) :
    ∃ id a found, (.call k, .newCorrelationId id) ∈ t ∧ D.clientOf a = some (D.owner k) ∧
      (a, .pending (.completed id bytes found)) ∈ t := by
  have hk : D.clientOf (.call k) = some (D.owner k) := rfl
  obtain ⟨before, after, ht⟩ := List.append_of_mem hm
  obtain ⟨id, hid, hreg, hun⟩ := hx.waits hk ht
  obtain ⟨pre, mid, hbefore⟩ := List.append_of_mem hreg
  -- nobody else waits on the slot in between: whoever waits has registered it
  have hsingle : ∀ r', .waited slot r' ∉ D.pendingEvents (D.owner k) mid := by
    intro r' hw
    obtain ⟨b, hb, hmb⟩ := mem_pendingEvents.1 hw
    obtain ⟨u, v, hmid⟩ := List.append_of_mem hmb
    have ht' : t = (pre ++ (.call k, .pending (.registered id slot)) :: u) ++ (b, .pending (.waited slot r')) ::
        (v ++ (.call k, .pending (.waited slot (.returned bytes))) :: after) := by
      rw [ht, hbefore, hmid]
      simp
    obtain ⟨id', -, hreg', -⟩ := hx.waits hb ht'
    have hregb : (b, .pending (.registered id' slot)) ∈ t := by
      rw [ht']
      exact List.mem_append_left _ hreg'
    have hregk : (.call k, .pending (.registered id slot)) ∈ t := by
      rw [ht]
      exact List.mem_append_left _ hreg
    rw [hx.registered_by hb hk hregb hregk] at hmb
    apply hun slot r'
    rw [hbefore]
    exact List.mem_append_right _ (List.mem_cons_of_mem _ hmb)
  obtain ⟨actions, state, hrun⟩ := hx.maps (D.owner k)
  have hevents : D.pendingEvents (D.owner k) t = D.pendingEvents (D.owner k) pre ++ .registered id slot ::
      (D.pendingEvents (D.owner k) mid ++ .waited slot (.returned bytes) :: D.pendingEvents (D.owner k) after) := by
    rw [ht, hbefore, pendingEvents_append, pendingEvents_append, pendingEvents_cons hk, pendingEvents_cons hk]
    simp
  rw [hevents] at hrun
  obtain ⟨first, found, rest, hsplit, -⟩ :=
    PendingReplies.completed_of_outcome (PendingReplies.waited_outcome hrun hsingle)
  have hcompleted : .completed id bytes found ∈ D.pendingEvents (D.owner k) mid := by
    rw [hsplit]
    simp
  obtain ⟨a, ha, hma⟩ := mem_pendingEvents.1 hcompleted
  refine ⟨id, a, found, ?_, ha, ?_⟩
  · rw [ht]
    exact List.mem_append_left _ hid
  · rw [ht, hbefore]
    simp [hma]

theorem Execution.returned_waited (hx : Execution D t outcome) {k : Call} {bytes : Bytes}
    (hway : (D.config k).oneWay = false) (hret : outcome k = .done bytes) :
    ∃ slot, (.call k, .pending (.waited slot (.returned bytes))) ∈ t := by
  obtain ⟨fuel, hr⟩ := hx.calls k
  rw [hret] at hr
  obtain ⟨slot, hm⟩ :=
    (safe_callClient (D.data k) (D.size k) fuel).post hr (Prog.admits_true _ _) hway bytes rfl
  rw [List.append_nil, List.mem_reverse, mem_ofActor] at hm
  exact ⟨slot, hm⟩

theorem lookup_requestAttributes (config : PubSubConfig) (id : Text) :
    (requestAttributes config id).lookup correlationIdAttribute = some id := by
  unfold requestAttributes
  split <;> simp

/-- A message a server answered was published by a call: a reply names no topic to reply to. -/
theorem Execution.request_of_answered (hx : Execution D t outcome) {s : Server} {answer : Except Error HttpResult}
    {batch : List PulledMessage} {message : PulledMessage} {value : Text}
    (hm : (.server s, .request (pullRequest (D.server s) (D.server s).requestSubscription 1) answer) ∈ t)
    (hp : pulled D.parse (D.server s).requestSubscription answer = .ok batch) (hb : message ∈ batch)
    (hreply : message.attributes.lookup replyToAttribute = some value) :
    ∃ k, (.call k, .newCorrelationId (correlationIdOf message)) ∈ t ∧ message.data = D.payload k := by
  obtain ⟨b, config, topic, attributes, answer', hpub, -, hattr⟩ := hx.published hm hp hb hreply
  cases b with
  | call k =>
    obtain ⟨id, hid, -, hdata, rfl⟩ := hx.call_publishes hpub
    refine ⟨k, ?_, hdata⟩
    rwa [correlationIdOf, attributeOf, hattr, lookup_requestAttributes]
  | dispatcher c =>
    obtain ⟨h, hd, -⟩ := discipline_of_mem (hx.dispatcher_admits c) hpub
    exact absurd rfl (hd.unpublished _ _ _ _ _)
  | destructor c =>
    obtain ⟨what, heq⟩ := hx.destructor_event hpub
    cases heq
  | server s' =>
    obtain ⟨-, -, message', -, -, -, -, -, rfl, -⟩ := hx.server_publishes hpub
    rw [hattr] at hreply
    cases hreply

/-- What the dispatcher pulled for an id was published by a server that answered it, unless the request of the call that
drew the id came back. -/
theorem Execution.reply_of_pulled (hx : Execution D t outcome) {c : Client} {answer : Except Error HttpResult}
    {batch : List PulledMessage} {message : PulledMessage} {id : Text}
    (hm : (.dispatcher c,
      .request (pullRequest (D.client c) (D.client c).replySubscription (D.client c).maxMessages) answer) ∈ t)
    (hp : pulled D.parse (D.client c).replySubscription answer = .ok batch) (hb : message ∈ batch)
    (hid : message.attributes.lookup correlationIdAttribute = some id) :
    ∃ k, (.call k, .newCorrelationId id) ∈ t ∧
      (D.feeds (publishUrl (D.config k) (D.config k).requestTopic)
          (pullUrl (D.client c) (D.client c).replySubscription) ∨
        ∃ s, AnsweredBy D t s (D.payload k) id message.data) := by
  obtain ⟨b, config, topic, attributes, answer', hpub, hfeeds, hattr⟩ := hx.published hm hp hb hid
  cases b with
  | call k =>
    obtain ⟨id', hdrew, hurl, -, rfl⟩ := hx.call_publishes hpub
    rw [hattr, lookup_requestAttributes] at hid
    cases hid
    rw [hurl] at hfeeds
    exact ⟨k, hdrew, Or.inl hfeeds⟩
  | dispatcher c' =>
    obtain ⟨h, hd, -⟩ := discipline_of_mem (hx.dispatcher_admits c') hpub
    exact absurd rfl (hd.unpublished _ _ _ _ _)
  | destructor c' =>
    obtain ⟨what, heq⟩ := hx.destructor_event hpub
    cases heq
  | server s =>
    obtain ⟨answer₀, batch₀, request, value, hpull, hpulled, hin, hvalue, rfl, hans⟩ := hx.server_publishes hpub
    rw [hattr] at hid
    have hcid : correlationIdOf request = id := by simpa [List.lookup_cons] using hid
    obtain ⟨k, hdrew, hdata⟩ := hx.request_of_answered hpull hpulled hin hvalue
    rw [hcid] at hdrew hans
    rw [hdata] at hans
    exact ⟨k, hdrew, Or.inr ⟨s, hans⟩⟩

/-- **End-to-end correctness**: what a two-way call returns is what some server's handler wrote, in a run that succeeded,
on that call's payload, and the server published it for the id that this call alone drew. -/
theorem call_returns_own_response (hx : Execution D t outcome) {k : Call} {bytes : Bytes}
    (hway : (D.config k).oneWay = false) (hret : outcome k = .done bytes)
    (hreply : ¬ D.feeds (publishUrl (D.config k) (D.config k).requestTopic)
      (pullUrl (D.config k) (D.config k).replySubscription)) :
    ∃ id s, (.call k, .newCorrelationId id) ∈ t ∧ AnsweredBy D t s (D.payload k) id bytes := by
  obtain ⟨slot, hwaited⟩ := hx.returned_waited hway hret
  obtain ⟨id, a, found, hdrew, ha, hcompleted⟩ := hx.waited_completed hwaited
  obtain ⟨answer, batch, message, hpull, hp, hb, hid, rfl⟩ := hx.completes ha hcompleted
  obtain ⟨k', hdrew', hpublished⟩ := hx.reply_of_pulled hpull hp hb hid
  obtain rfl := hx.distinct k k' id hdrew hdrew'
  obtain ⟨s, hans⟩ := hpublished.resolve_left hreply
  exact ⟨id, s, hdrew, hans⟩

end Run

/-! ### Two executions -/

section Demo

def demoClient (replyTopic : Text) : PubSubConfig where
  projectId := "demo".toList
  requestTopic := "requests".toList
  replyTopic := replyTopic
  replySubscription := "replies-sub".toList

def demoServer : PubSubConfig where
  projectId := "demo".toList
  requestTopic := "requests".toList
  requestSubscription := "requests-sub".toList

def accepted (body : Text) : Except Error HttpResult := .ok { status := 200, body }

/-- A call of `[7]` under the id `a`, up to its wait. -/
def demoCall (config : PubSubConfig) : List Event :=
  [.startedLoaded false, .startedLoaded false, .acquireSession (.ok ()), .newSession (.ok ()), .startedStored,
    .newCorrelationId ['a'], .pending (.registered ['a'] 0), .acquireSession (.ok ()),
    .request (publishRequest config config.requestTopic [7] (requestAttributes config ['a'])) (accepted [])]

def demoReturn (bytes : Bytes) : List Event := [.pending (.waited 0 (.returned bytes)), .pending .destroyed]

/-- The dispatcher, which pulls one message for `a`. -/
def demoDispatch (config : PubSubConfig) (body : Text) (bytes : Bytes) : List Event :=
  [.stoppingLoaded false, .waitForPending true,
    .request (pullRequest config config.replySubscription config.maxMessages) (accepted body),
    .request (acknowledgeRequest config config.replySubscription [['1']]) (accepted []),
    .pending (.completed ['a'] bytes true)]

/-- The server, whose handler answers `[7]` with `[8]`. -/
def demoServe (body : Text) : List Event :=
  [.stopRequested false, .newSession (.ok ()), .stopRequested false,
    .request (pullRequest demoServer demoServer.requestSubscription 1) (accepted body), .stopRequested false,
    processed [7] [some [8]],
    .request (publishRequest demoServer "replies".toList [8] [(correlationIdAttribute, ['a'])]) (accepted []),
    .request (acknowledgeRequest demoServer demoServer.requestSubscription [['1']]) (accepted [])]

/-- An answer to a pull, as the service writes it and as the parser reads it. -/
def pullAnswer (data : Text) (attributes : List (Text × Text)) : Json :=
  .object [("receivedMessages".toList, .array [.object [("ackId".toList, .string ['1']),
    ("message".toList, .object [("data".toList, .string data), ("attributes".toList, .ofStrings attributes)])]])]

theorem demoCall_runs {config : PubSubConfig} (hway : config.oneWay = false) (hcreate : config.autoCreate = false)
    (bytes : Bytes) :
    (callClient config (some [7]) 1 1).Runs (demoCall config ++ demoReturn bytes) (.done bytes) := by
  unfold callClient ensureStarted createResources
  simp only [hway, hcreate]
  refine Prog.runs_ask.2 ⟨false, rfl, ?_⟩
  refine Prog.runs_ask.2 ⟨false, rfl, ?_⟩
  refine Prog.runs_ask.2 ⟨.ok (), rfl, ?_⟩
  refine Prog.runs_ask.2 ⟨.ok (), rfl, ?_⟩
  refine Prog.runs_ask.2 ⟨(), rfl, ?_⟩
  refine Prog.runs_ask.2 ⟨['a'], rfl, ?_⟩
  refine Prog.runs_ask.2 ⟨.ok 0, rfl, ?_⟩
  refine Prog.runs_ask.2 ⟨.ok (), rfl, ?_⟩
  refine Prog.runs_ask.2 ⟨accepted [], rfl, ?_⟩
  refine Prog.runs_ask.2 ⟨.returned bytes, rfl, ?_⟩
  refine Prog.runs_ask.2 ⟨(), rfl, ?_⟩
  exact ⟨rfl, rfl⟩

theorem pulled_pullAnswer {parse : Text → Option Json} {body : Text} {bytes : Bytes} {attributes : List (Text × Text)}
    (hparse : parse body = some (pullAnswer (base64Encode bytes) attributes)) (subscription : Text) :
    pulled parse subscription (accepted body) = .ok [⟨['1'], bytes, attributes⟩] := by
  have hitem : pulledMessage (.object [("ackId".toList, .string ['1']),
      ("message".toList, .object [("data".toList, .string (base64Encode bytes)),
        ("attributes".toList, .ofStrings attributes)])]) = .ok ⟨['1'], bytes, attributes⟩ := by
    refine (pulledMessage_message rfl).trans ?_
    change ((base64Decode (base64Encode bytes)).mapError fun what => Error.exn (.std what)).map (fun data =>
      PulledMessage.mk ['1'] data (Json.ofStrings attributes).strings) = _
    rw [base64Decode_encode, Json.strings_ofStrings]
    rfl
  unfold pulled
  rw [accepted]
  simp only [Except.bind, hparse]
  change [_].mapM pulledMessage = _
  rw [List.mapM_cons, hitem]
  rfl

theorem demoDispatch_runs {parse : Text → Option Json} (replyTopic : Text) {body : Text} {bytes : Bytes}
    {attributes : List (Text × Text)}
    (hparse : parse body = some (pullAnswer (base64Encode bytes) ((correlationIdAttribute, ['a']) :: attributes))) :
    (dispatchReplies parse (demoClient replyTopic) 1).Runs (demoDispatch (demoClient replyTopic) body bytes) .cut := by
  refine Prog.runs_ask.2 ⟨false, rfl, ?_⟩
  refine Prog.runs_ask.2 ⟨true, rfl, ?_⟩
  refine Prog.runs_ask.2 ⟨accepted body, rfl, ?_⟩
  simp only [Prog.bind, pulled_pullAnswer hparse]
  refine Prog.runs_ask.2 ⟨accepted [], rfl, ?_⟩
  refine Prog.runs_ask.2 ⟨true, rfl, ?_⟩
  exact ⟨rfl, rfl⟩

theorem demoServe_runs {parse : Text → Option Json} {body : Text}
    (hparse : parse body = some (pullAnswer (base64Encode [7])
      [(correlationIdAttribute, ['a']), (replyToAttribute, "replies".toList)])) :
    (start parse demoServer true 1 1).Runs (demoServe body) .cut := by
  refine Prog.runs_ask.2 ⟨false, rfl, ?_⟩
  refine Prog.runs_ask.2 ⟨.ok (), rfl, ?_⟩
  refine Prog.runs_ask.2 ⟨false, rfl, ?_⟩
  refine Prog.runs_ask.2 ⟨accepted body, rfl, ?_⟩
  simp only [Prog.bind, pulled_pullAnswer hparse]
  refine Prog.runs_ask.2 ⟨false, rfl, ?_⟩
  refine Prog.runs_ask.2 ⟨([some [8]], .ok true), rfl, ?_⟩
  refine Prog.runs_ask.2 ⟨accepted [], rfl, ?_⟩
  refine Prog.runs_ask.2 ⟨accepted [], rfl, ?_⟩
  exact ⟨rfl, rfl⟩

/-- The bodies of the answers, as text. -/
def requestBody (replyTo : Text) : Text :=
  ("\x7b\"receivedMessages\":[\x7b\"ackId\":\"1\",\"message\":\x7b\"data\":\"Bw==\",\"attributes\":" ++
    "\x7b\"correlationId\":\"a\",\"replyTo\":\"").toList ++ replyTo ++ "\"\x7d\x7d\x7d]\x7d".toList

def replyBody : Text :=
  ("\x7b\"receivedMessages\":[\x7b\"ackId\":\"1\",\"message\":\x7b\"data\":\"CA==\",\"attributes\":" ++
    "\x7b\"correlationId\":\"a\"\x7d\x7d\x7d]\x7d").toList

def requestAnswer (replyTo : Text) : Json :=
  pullAnswer (base64Encode [7]) [(correlationIdAttribute, ['a']), (replyToAttribute, replyTo)]

def replyAnswer : Json := pullAnswer (base64Encode [8]) [(correlationIdAttribute, ['a'])]

def demoParse (text : Text) : Option Json :=
  if text = requestBody "replies".toList then some (requestAnswer "replies".toList)
  else if text = requestBody "requests".toList then some (requestAnswer "requests".toList)
  else if text = replyBody then some replyAnswer
  else none

theorem demoParse_request : demoParse (requestBody "replies".toList) = some (requestAnswer "replies".toList) :=
  if_pos rfl

theorem demoParse_loopback : demoParse (requestBody "requests".toList) = some (requestAnswer "requests".toList) := by
  rw [demoParse, if_neg (by decide +kernel), if_pos rfl]

theorem demoParse_reply : demoParse replyBody = some replyAnswer := by
  rw [demoParse, if_neg (by decide +kernel), if_neg (by decide +kernel), if_pos rfl]

def demo : Deployment Unit Unit Unit where
  parse := demoParse
  client _ := demoClient "replies".toList
  server _ := demoServer
  owner _ := ()
  data _ := some [7]
  size _ := 1
  feeds topic subscription :=
    (topic = publishUrl demoServer demoServer.requestTopic ∧
        subscription = pullUrl demoServer demoServer.requestSubscription) ∨
      (topic = publishUrl demoServer "replies".toList ∧
        subscription = pullUrl (demoClient "replies".toList) "replies-sub".toList)

def demoTrace : List (Actor Unit Unit Unit × Event) :=
  (demoCall (demoClient "replies".toList)).map (fun e => (.call (), e)) ++
    (demoServe (requestBody "replies".toList)).map (fun e => (.server (), e)) ++
    (demoDispatch (demoClient "replies".toList) replyBody [8]).map (fun e => (.dispatcher (), e)) ++
    (demoReturn [8]).map (fun e => (.call (), e))

theorem not_pull_of_keys {config : PubSubConfig} {subscription : Text} {n : Nat} {sent : HttpRequest}
    {answer answer' : Except Error HttpResult} (hk : sent.keys ≠ ["maxMessages".toList, "returnImmediately".toList]) :
    Event.request (pullRequest config subscription n) answer ≠ .request sent answer' :=
  fun heq => hk (by rw [← (Event.request.inj heq).1, keys_pullRequest])

theorem pull_of_eq {c c' : PubSubConfig} {sub sub' : Text} {n n' : Nat} {answer answer' : Except Error HttpResult}
    (h : Event.request (pullRequest c sub n) answer = .request (pullRequest c' sub' n') answer') :
    pullUrl c sub = pullUrl c' sub' ∧ answer = answer' :=
  ⟨congrArg HttpRequest.url (Event.request.inj h).1, (Event.request.inj h).2⟩

theorem not_pull_of_demoCall {config config' : PubSubConfig} {subscription : Text} {n : Nat}
    {answer : Except Error HttpResult} (bytes : Bytes) :
    .request (pullRequest config subscription n) answer ∉ demoCall config' ++ demoReturn bytes := by
  intro hm
  simp only [demoCall, demoReturn, List.cons_append, List.nil_append, List.mem_cons, reduceCtorEq, false_or,
    List.not_mem_nil, or_false] at hm
  exact not_pull_of_keys (by simp) hm

theorem pull_of_demoServe {config : PubSubConfig} {subscription body : Text} {n : Nat}
    {answer : Except Error HttpResult} (hm : .request (pullRequest config subscription n) answer ∈ demoServe body) :
    pullUrl config subscription = pullUrl demoServer demoServer.requestSubscription ∧ answer = accepted body := by
  simp only [demoServe, processed, List.mem_cons, reduceCtorEq, false_or, List.not_mem_nil, or_false] at hm
  rcases hm with hm | hm | hm
  · exact pull_of_eq hm
  · exact absurd hm (not_pull_of_keys (by simp))
  · exact absurd hm (not_pull_of_keys (by simp))

theorem pull_of_demoDispatch {config config' : PubSubConfig} {subscription body : Text} {bytes : Bytes} {n : Nat}
    {answer : Except Error HttpResult}
    (hm : .request (pullRequest config subscription n) answer ∈ demoDispatch config' body bytes) :
    pullUrl config subscription = pullUrl config' config'.replySubscription ∧ answer = accepted body := by
  simp only [demoDispatch, List.mem_cons, reduceCtorEq, false_or, List.not_mem_nil, or_false] at hm
  rcases hm with hm | hm
  · exact pull_of_eq hm
  · exact absurd hm (not_pull_of_keys (by simp))

theorem message_of_pullAnswer {parse : Text → Option Json} {result : HttpResult} {body data : Text}
    {attributes : List (Text × Text)} {items : List Json} {item message : Json}
    (hr : (.ok result : Except Error HttpResult) = accepted body) (hparse : parse body = some (pullAnswer data attributes))
    (hi : (parse result.body).bind (Json.findArray? "receivedMessages".toList) = some items) (hitem : item ∈ items)
    (hm : item.findObject? "message".toList = some message) :
    message = .object [("data".toList, .string data), ("attributes".toList, .ofStrings attributes)] := by
  cases hr
  rw [hparse] at hi
  cases hi
  rw [List.mem_singleton] at hitem
  rw [hitem] at hm
  cases hm
  rfl

theorem carries_message (data : Bytes) (attributes : List (Text × Text)) :
    Carries (.object [("data".toList, .string (base64Encode data)), ("attributes".toList, .ofStrings attributes)]) data
      attributes where
  data := Or.inl rfl
  attributes name := by
    change (Json.ofStrings attributes).strings.lookup name = _
    rw [Json.strings_ofStrings]

theorem demo_delivers : demo.Delivers demoTrace := by
  intro a config subscription n result items item message hm _ _ hi hitem hmessage
  have hmem : .request (pullRequest config subscription n) (.ok result) ∈ ofActor a demoTrace := mem_ofActor.2 hm
  cases a with
  | call k => exact absurd hmem (not_pull_of_demoCall [8])
  | dispatcher c =>
    obtain ⟨hurl, hr⟩ := @pull_of_demoDispatch _ _ _ replyBody _ _ _ hmem
    obtain rfl := message_of_pullAnswer hr demoParse_reply hi hitem hmessage
    refine ⟨_, [8], [(correlationIdAttribute, ['a'])], ⟨.server (), demoServer, "replies".toList, accepted [], ?_, rfl⟩,
      Or.inr ⟨rfl, hurl⟩, carries_message _ _⟩
    simp [demoTrace, demoServe]
  | destructor c => cases hmem
  | server s =>
    obtain ⟨hurl, hr⟩ := @pull_of_demoServe _ _ (requestBody "replies".toList) _ _ hmem
    obtain rfl := message_of_pullAnswer hr demoParse_request hi hitem hmessage
    refine ⟨_, [7], _, ⟨.call (), demoClient "replies".toList, "requests".toList, accepted [], ?_, rfl⟩,
      Or.inl ⟨rfl, hurl⟩, carries_message _ _⟩
    simp [demoTrace, demoCall, demoClient, requestAttributes]

theorem demo_separate : ¬ demo.feeds (publishUrl (demo.config ()) (demo.config ()).requestTopic)
    (pullUrl (demo.config ()) (demo.config ()).replySubscription) := by
  have htopic : publishUrl (demo.config ()) (demo.config ()).requestTopic ≠ publishUrl demoServer "replies".toList := by
    decide +kernel
  have hsub : pullUrl (demo.config ()) (demo.config ()).replySubscription ≠
      pullUrl demoServer demoServer.requestSubscription := by decide +kernel
  rintro (⟨-, h⟩ | ⟨h, -⟩)
  · exact hsub h
  · exact htopic h

theorem demo_execution : Execution demo demoTrace fun _ => .done [8] where
  calls k := ⟨1, by
    have h : ofActor (.call ()) demoTrace = demoCall (demoClient "replies".toList) ++ demoReturn [8] := rfl
    rw [h]
    exact demoCall_runs rfl rfl [8]⟩
  dispatchers c := ⟨1, .cut, by
    have h : ofActor (.dispatcher ()) demoTrace = demoDispatch (demoClient "replies".toList) replyBody [8] := rfl
    rw [h]
    exact demoDispatch_runs _ demoParse_reply⟩
  destructors c := ⟨.cut, Or.inl ⟨rfl, rfl⟩⟩
  servers s := ⟨true, 1, 1, .cut, by
    have h : ofActor (.server ()) demoTrace = demoServe (requestBody "replies".toList) := rfl
    rw [h]
    exact demoServe_runs demoParse_request⟩
  maps c := ⟨[.register () ['a'], .complete ['a'] [8], .wait (), .destroy ()], _, rfl⟩
  delivers := demo_delivers
  distinct k k' _ _ _ := rfl

theorem call_returns_own_response_demo :
    ∃ id s, (.call (), .newCorrelationId id) ∈ demoTrace ∧ AnsweredBy demo demoTrace s [7] id [8] :=
  call_returns_own_response demo_execution rfl rfl demo_separate

/-- A client whose reply topic is its request topic, and no server. -/
def loopback : Deployment Unit Unit Empty where
  parse := demoParse
  client _ := demoClient "requests".toList
  server := nofun
  owner _ := ()
  data _ := some [7]
  size _ := 1
  feeds topic subscription := topic = publishUrl (demoClient "requests".toList) "requests".toList ∧
    subscription = pullUrl (demoClient "requests".toList) "replies-sub".toList

def loopbackTrace : List (Actor Unit Unit Empty × Event) :=
  (demoCall (demoClient "requests".toList)).map (fun e => (.call (), e)) ++
    (demoDispatch (demoClient "requests".toList) (requestBody "requests".toList) [7]).map
      (fun e => (.dispatcher (), e)) ++
    (demoReturn [7]).map (fun e => (.call (), e))

theorem loopback_delivers : loopback.Delivers loopbackTrace := by
  intro a config subscription n result items item message hm _ _ hi hitem hmessage
  have hmem : .request (pullRequest config subscription n) (.ok result) ∈ ofActor a loopbackTrace := mem_ofActor.2 hm
  cases a with
  | call k => exact absurd hmem (not_pull_of_demoCall [7])
  | dispatcher c =>
    obtain ⟨hurl, hr⟩ := @pull_of_demoDispatch _ _ _ (requestBody "requests".toList) _ _ _ hmem
    obtain rfl := message_of_pullAnswer hr demoParse_loopback hi hitem hmessage
    refine ⟨_, [7], _, ⟨.call (), demoClient "requests".toList, "requests".toList, accepted [], ?_, rfl⟩, ⟨rfl, hurl⟩,
      carries_message _ _⟩
    simp [loopbackTrace, demoCall, demoClient, requestAttributes]
  | destructor c => cases hmem
  | server s => exact s.elim

theorem loopback_execution : Execution loopback loopbackTrace fun _ => .done [7] where
  calls k := ⟨1, by
    have h : ofActor (.call ()) loopbackTrace = demoCall (demoClient "requests".toList) ++ demoReturn [7] := rfl
    rw [h]
    exact demoCall_runs rfl rfl [7]⟩
  dispatchers c := ⟨1, .cut, by
    have h : ofActor (.dispatcher ()) loopbackTrace =
        demoDispatch (demoClient "requests".toList) (requestBody "requests".toList) [7] := rfl
    rw [h]
    exact demoDispatch_runs _ demoParse_loopback⟩
  destructors c := ⟨.cut, Or.inl ⟨rfl, rfl⟩⟩
  servers := nofun
  maps c := ⟨[.register () ['a'], .complete ['a'] [7], .wait (), .destroy ()], _, rfl⟩
  delivers := loopback_delivers
  distinct k k' _ _ _ := rfl

/-- A validated client reads its own request back as the reply. -/
theorem call_returns_own_request :
    validateClientConfig (loopback.config ()) = .ok () ∧
      Execution loopback loopbackTrace (fun _ => .done [7]) ∧ (loopback.config ()).oneWay = false ∧
      ¬ ∃ id s, (.call (), .newCorrelationId id) ∈ loopbackTrace ∧
        AnsweredBy loopback loopbackTrace s (loopback.payload ()) id [7] :=
  ⟨by rfl, loopback_execution, rfl, fun ⟨_, s, _⟩ => s.elim⟩

end Demo

end PubSub
end Graftcode
