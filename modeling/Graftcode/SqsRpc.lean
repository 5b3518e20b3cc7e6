import Graftcode.PendingWaits
import Graftcode.ProgRuns
import Graftcode.SqsCalls
import Graftcode.SqsPayload
/-!
# SqsRpc — calls, dispatchers and servers around the queues

The whole transport: any number of clients with any number of calls each, one dispatcher a client, and any number of
servers, every one of them the program of its own module.  An execution is one trace of all their events.  The queues may
lose, delay, reorder, duplicate and redeliver, and the SDK may fail at any request; what a queue delivers was sent to it
(`Delivers`).
-/
namespace Graftcode
namespace Sqs
namespace Rpc

open PendingReplies (finishFor WaitResult SlotRef Waiting Wiring)

/-- An event of a client's thread, or of a server. -/
inductive RpcEvent where
  | client (event : ClientEvent)
  | server (event : Event)

/-- The threads: a call, the dispatcher of a client, its destructor, and the receive loop of a server. -/
inductive Actor (Call Client Server : Type) where
  | call (k : Call)
  | dispatcher (c : Client)
  | destructor (c : Client)
  | server (s : Server)
  deriving DecidableEq

/-- Who calls what. -/
structure Deployment (Call Client Server : Type) where
  sdk : Sdk
  client : Client → SqsConfig
  server : Server → SqsConfig
  owner : Call → Client
  data : Call → Option Bytes
  size : Call → Nat

variable {Call Client Server : Type}

namespace Deployment

variable (D : Deployment Call Client Server)

def config (k : Call) : SqsConfig := D.client (D.owner k)

def payload (k : Call) : Bytes := ((D.data k).getD []).take (D.size k)

/-- The map a thread works on. -/
def wiring : Wiring (Actor Call Client Server) RpcEvent Client where
  clientOf
    | .call k       => some (D.owner k)
    | .dispatcher c => some c
    | .destructor c => some c
    | .server _     => none
  event event := .client (.pending event)
  event?
    | .client (.pending event) => some event
    | _                        => none
  event?_iff e x := by
    rcases e with e | e
    · cases e <;> simp
    · simp

end Deployment

/-- Somebody sent it, whatever came of that. -/
def Sent (t : List (Actor Call Client Server × RpcEvent)) (a : Actor Call Client Server) (sent : SendMessageRequest) :
    Prop :=
  (∃ outcome, (a, .client (.sendMessage sent outcome)) ∈ t) ∨ ∃ outcome, (a, .server (.sendMessage sent outcome)) ∈ t

/-- Somebody received it from the queue at `queueUrl`. -/
def ReceivedFrom (t : List (Actor Call Client Server × RpcEvent)) (queueUrl : Text) (message : Message) : Prop :=
  ∃ a request messages, request.queueUrl = queueUrl ∧ message ∈ messages ∧
    ((a, .client (.receiveMessage request (.ok (.ok messages)))) ∈ t ∨
      (a, .server (.receiveMessage request (.ok (.ok messages)))) ∈ t)

/-- A queue forges nothing and alters nothing. -/
def Delivers (t : List (Actor Call Client Server × RpcEvent)) : Prop :=
  ∀ queueUrl message, ReceivedFrom t queueUrl message → ∃ a sent, Sent t a sent ∧ sent.queueUrl = queueUrl ∧
    message.body = sent.messageBody ∧
    ∀ name, message.messageAttributes.lookup name = sent.messageAttributes.lookup name

variable [DecidableEq Call] [DecidableEq Client] [DecidableEq Server]

/-- An execution, and what each call has come to. -/
structure Execution (D : Deployment Call Client Server) (t : List (Actor Call Client Server × RpcEvent))
    (outcome : Call → Outcome Exn Bytes) : Prop where
  calls : ∀ k, ((callClient D.sdk (D.config k) (D.data k) (D.size k)).under RpcEvent.client).Runs
    (ofActor (.call k) t) (outcome k)
  dispatchers : ∀ c, ∃ fuel o, ((dispatchReplies D.sdk (D.client c) fuel).under RpcEvent.client).Runs
    (ofActor (.dispatcher c) t) o
  destructors : ∀ c, ∃ o, (destroyClient.under RpcEvent.client).Runs (ofActor (.destructor c) t) o
  servers : ∀ s, ∃ configured fuel o, ((start D.sdk (D.server s) configured fuel).under RpcEvent.server).Runs
    (ofActor (.server s) t) o
  maps : ∀ c, ∃ (actions : List (PendingReplies.Action Call)) (state : PendingReplies.State Call),
    Machine.run PendingReplies.step .init actions = some (state, D.wiring.events c t)
  delivers : Delivers t
  /-- No two calls draw the same two words. -/
  distinct : ∀ k k' first second, (Actor.call k, RpcEvent.client (.newCorrelationId first second)) ∈ t →
    (Actor.call k', RpcEvent.client (.newCorrelationId first second)) ∈ t → k = k'

/-! ## What a server sends -/

/-- A server sends a reply only to a message of its latest receive, with what the handler has just written. -/
def RepliesTo (sdk : Sdk) (config : SqsConfig) (h : List Event) (e : Event) : Prop :=
  ∀ sent outcome, e = .sendMessage sent outcome → ∃ messages message payload writes dedup body earlier,
    .receiveMessage (receiveRequest config) (.ok (.ok messages)) ∈ h ∧ message ∈ messages ∧
      decodePayload sdk message.body = .ok payload ∧
      h = .newCorrelationId dedup :: processed payload writes :: earlier ∧
      encodePayload sdk (some (responseOf writes)) (responseOf writes).length = .ok body ∧
      replyQueueUrlOf config message ≠ [] ∧
      sent = configureFifoMessage (replyRequest (replyQueueUrlOf config message)
        (getStringAttribute message correlationIdAttribute) body) (replyQueueUrlOf config message) config.messageGroupId
        dedup

section Server

variable {sdk : Sdk} {config : SqsConfig}

theorem repliesTo_of_ne {h : List Event} {e : Event} (he : ∀ sent outcome, e ≠ .sendMessage sent outcome) :
    RepliesTo sdk config h e := fun sent outcome heq => absurd heq (he sent outcome)

theorem keeps_sendReply {messages : List Message} {message : Message} {payload : Bytes} {writes : List (Option Bytes)}
    {h : List Event} (hr : .receiveMessage (receiveRequest config) (.ok (.ok messages)) ∈ h) (hm : message ∈ messages)
    (hpayload : decodePayload sdk message.body = .ok payload) :
    Prog.Keeps (fun _ _ => True) (RepliesTo sdk config) (sendReply sdk config (replyQueueUrlOf config message)
      (getStringAttribute message correlationIdAttribute) (responseOf writes)) (processed payload writes :: h) := by
  unfold sendReply
  split
  · trivial
  rename_i hurl
  rw [Prog.Keeps, Prog.safe_bind, Prog.safe_ofExcept]
  cases hbody : encodePayload sdk (some (responseOf writes)) (responseOf writes).length with
  | error what => trivial
  | ok body =>
    simp only [Except.mapError, Prog.andThen_ok, Prog.safe_bind, Prog.safe_emit, Prog.safe_call]
    intro dedup _
    refine ⟨repliesTo_of_ne (by simp), fun outcome _ => ⟨fun sent outcome' heq => ?_, ?_⟩⟩
    · refine ⟨messages, message, payload, writes, dedup, body, h, ?_, hm, hpayload, rfl, hbody, ?_, ?_⟩
      · exact List.mem_cons_of_mem _ (List.mem_cons_of_mem _ hr)
      · simpa using hurl
      · exact (Event.sendMessage.inj heq).1.symm
    · cases outcome with
      | error e => trivial
      | ok r => trivial

theorem keeps_handleMessage {messages : List Message} {message : Message} {h : List Event}
    (hr : .receiveMessage (receiveRequest config) (.ok (.ok messages)) ∈ h) (hm : message ∈ messages) :
    Prog.Keeps (fun _ _ => True) (RepliesTo sdk config) (handleMessage sdk config message) h := by
  unfold handleMessage
  dsimp only
  split
  · trivial
  rw [Prog.Keeps, Prog.safe_bind, Prog.safe_ofExcept]
  cases hpayload : decodePayload sdk message.body with
  | error what => trivial
  | ok payload =>
    simp only [Except.mapError, Prog.andThen_ok, Prog.safe_bind, processMessage, Prog.safe_emit, Prog.safe_ofExcept]
    rintro ⟨writes, result⟩ -
    refine ⟨repliesTo_of_ne (by simp), ?_⟩
    rcases result with e | processed
    · trivial
    cases processed with
    | false => trivial
    | true =>
      simp only [Except.map, Prog.andThen_ok, Bool.not_true, Bool.false_eq_true, if_false, Prog.safe_bind]
      refine (keeps_sendReply hr hm hpayload).mono fun h' r _ => ?_
      rcases r with e | sent
      · trivial
      cases sent with
      | false => trivial
      | true =>
        simp only [Prog.andThen_ok, Bool.not_true, Bool.false_eq_true, if_false, Prog.safe_bind, Prog.safe_call]
        refine fun outcome _ => ⟨repliesTo_of_ne (by simp), ?_⟩
        cases outcome with
        | error e => trivial
        | ok r => trivial

theorem keeps_handleMessages_replies {messages : List Message} {h : List Event}
    (hr : .receiveMessage (receiveRequest config) (.ok (.ok messages)) ∈ h) :
    Prog.Keeps (fun _ _ => True) (RepliesTo sdk config) (handleMessages sdk config messages) h := by
  refine Prog.safe_forEach (fun h => .receiveMessage (receiveRequest config) (.ok (.ok messages)) ∈ h)
    (fun _ _ => trivial) messages (fun message hm h hr => ?_) h hr
  simp only [Prog.safe_bind, Prog.safe_emit, Prog.andThen_ok]
  intro stop _
  refine ⟨repliesTo_of_ne (by simp), ?_⟩
  have hr' := List.mem_cons_of_mem (Event.stopRequested stop) hr
  split
  · exact hr'
  simp only [Prog.safe_bind, Prog.safe_attempt]
  have hkeep : ∀ (h : List Event) (e : Event), .receiveMessage (receiveRequest config) (.ok (.ok messages)) ∈ h →
      .receiveMessage (receiveRequest config) (.ok (.ok messages)) ∈ e :: h := fun _ _ hp => List.mem_cons_of_mem _ hp
  refine ((keeps_handleMessage hr' hm).persist hkeep hr').mono fun h' r hr => ?_
  cases r with
  | ok u => exact hr.1
  | error e =>
    rw [Prog.attempted_error]
    split
    · exact hr.1
    · trivial

/-- **What a server keeps to** when it sends. -/
theorem keeps_start (configured : Bool) (fuel : Nat) :
    Prog.Keeps (fun _ _ => True) (RepliesTo sdk config) (start sdk config configured fuel) [] := by
  refine Prog.Safe.keeps_tryCatch ?_ fun _ _ => trivial
  rw [Prog.Keeps, Prog.safe_bind, Prog.safe_ofExcept]
  cases (validateServerConfig config).mapError Exn.std with
  | error e => trivial
  | ok u =>
    cases configured with
    | false => trivial
    | true =>
      have hclient : Prog.Keeps (fun _ _ => True) (RepliesTo sdk config) (Prog.call Event.createClient) [] :=
        Prog.keeps_call fun _ => repliesTo_of_ne (by simp)
      refine hclient.keeps_bind fun _ h _ => Prog.keeps_iterate (fun _ h => ?_) fuel () h
      refine Prog.keeps_emit_bind (fun _ => repliesTo_of_ne (by simp)) fun stop => ?_
      split
      · trivial
      refine Prog.keeps_call_bind (fun _ => repliesTo_of_ne (by simp)) fun outcome => ?_
      cases outcome with
      | error what => trivial
      | ok messages => exact (keeps_handleMessages_replies List.mem_cons_self).keeps_bind fun _ _ _ => trivial

end Server

/-! ## What the threads of an execution keep to -/

section Run

variable {D : Deployment Call Client Server} {t : List (Actor Call Client Server × RpcEvent)}
  {outcome : Call → Outcome Exn Bytes}

theorem client_injective : Function.Injective RpcEvent.client := fun _ _ h => RpcEvent.client.inj h

theorem server_injective : Function.Injective RpcEvent.server := fun _ _ h => RpcEvent.server.inj h

theorem Execution.call_at (hx : Execution D t outcome) {k : Call} {e : ClientEvent}
    {before after : List (Actor Call Client Server × RpcEvent)} (ht : t = before ++ (.call k, .client e) :: after) :
    ∃ h, CallDiscipline D.sdk (D.config k) (D.data k) (D.size k) h e ∧ ∀ x, x ∈ h ↔ (.call k, .client x) ∈ before := by
  obtain ⟨h, hd, -, hm⟩ := discipline_under client_injective safe_callClient (hx.calls k) ht
  exact ⟨h, hd, hm⟩

theorem Execution.dispatcher_at (hx : Execution D t outcome) {c : Client} {e : ClientEvent}
    {before after : List (Actor Call Client Server × RpcEvent)} (ht : t = before ++ (.dispatcher c, .client e) :: after) :
    ∃ h, DispatchDiscipline D.sdk (D.client c) h e ∧ ∀ x, x ∈ h ↔ (.dispatcher c, .client x) ∈ before := by
  obtain ⟨fuel, o, hr⟩ := hx.dispatchers c
  obtain ⟨h, hd, -, hm⟩ := discipline_under client_injective (keeps_dispatchReplies fuel) hr ht
  exact ⟨h, hd, hm⟩

theorem Execution.server_at (hx : Execution D t outcome) {s : Server} {e : Event}
    {before after : List (Actor Call Client Server × RpcEvent)} (ht : t = before ++ (.server s, .server e) :: after) :
    ∃ h, RepliesTo D.sdk (D.server s) h e ∧ ofActor (.server s) before = h.reverse.map RpcEvent.server ∧
      ∀ x, x ∈ h ↔ (.server s, .server x) ∈ before := by
  obtain ⟨configured, fuel, o, hr⟩ := hx.servers s
  exact discipline_under server_injective (keeps_start configured fuel) hr ht

theorem Execution.destructor_event (hx : Execution D t outcome) {c : Client} {e : ClientEvent}
    (hm : (Actor.destructor c, RpcEvent.client e) ∈ t) :
    e = .stoppingStored ∨ e = .pending (.closed "SQS client is shutting down".toList) := by
  obtain ⟨o, hr⟩ := hx.destructors c
  have hsafe : destroyClient.Safe (fun _ _ => True)
      (fun _ e => e = .stoppingStored ∨ e = .pending (.closed "SQS client is shutting down".toList))
      (fun _ _ => True) [] := fun _ _ => ⟨Or.inl rfl, fun _ _ => ⟨Or.inr rfl, trivial⟩⟩
  obtain ⟨before, after, ht⟩ := List.append_of_mem hm
  obtain ⟨h, hd, -⟩ := discipline_under client_injective hsafe hr ht
  exact hd

/-- The events of a client's threads are a client's, those of a server a server's. -/
theorem Execution.server_of_event (hx : Execution D t outcome) {a : Actor Call Client Server} {e : Event}
    (hm : (a, RpcEvent.server e) ∈ t) : ∃ s, a = .server s := by
  cases a with
  | call k =>
    obtain ⟨e', he⟩ := event_of_under (hx.calls k) hm
    cases he
  | dispatcher c =>
    obtain ⟨fuel, o, hr⟩ := hx.dispatchers c
    obtain ⟨e', he⟩ := event_of_under hr hm
    cases he
  | destructor c =>
    obtain ⟨o, hr⟩ := hx.destructors c
    obtain ⟨e', he⟩ := event_of_under hr hm
    cases he
  | server s => exact ⟨s, rfl⟩

theorem Execution.not_server_of_event (hx : Execution D t outcome) {s : Server} {e : ClientEvent} :
    (Actor.server s, RpcEvent.client e) ∉ t := by
  intro hm
  obtain ⟨configured, fuel, o, hr⟩ := hx.servers s
  obtain ⟨e', he⟩ := event_of_under hr hm
  cases he

/-! ### The maps -/

theorem finishing_finishes (sdk : Sdk) (message : Message) (outcome : Except AwsError Unit) (found : Bool) :
    (∃ bytes, finishing sdk message outcome found =
      .completed (getStringAttribute message correlationIdAttribute) bytes found) ∨
    ∃ what, finishing sdk message outcome found =
      .failed (getStringAttribute message correlationIdAttribute) what found := by
  unfold finishing
  cases outcome with
  | error error => exact Or.inr ⟨_, rfl⟩
  | ok u =>
    cases hbody : decodePayload sdk message.body with
    | ok payload => exact Or.inl ⟨payload, rfl⟩
    | error what => exact Or.inr ⟨what, rfl⟩

/-- **The threads of a client wait as they have to**: once, and on a slot of their own. -/
theorem Execution.waiting (hx : Execution D t outcome) : Waiting Call D.wiring t where
  maps := hx.maps
  waits before a after slot r c ha ht := by
    cases a with
    | call k =>
      obtain ⟨h, hd, hm⟩ := hx.call_at ht
      obtain ⟨⟨id, hreg⟩, hun⟩ := hd.waits slot r rfl
      exact ⟨⟨id, (hm _).1 hreg⟩, fun slot' r' hw => hun slot' r' ((hm _).2 hw)⟩
    | dispatcher c' =>
      obtain ⟨h, hd, -⟩ := hx.dispatcher_at ht
      rcases hd.finishes _ rfl with ⟨error, rest, -, heq⟩ | ⟨message, outcome', found, -, heq⟩
      · cases heq
      · rcases finishing_finishes D.sdk message outcome' found with ⟨bytes, hfin⟩ | ⟨what, hfin⟩
        · rw [hfin] at heq
          cases heq
        · rw [hfin] at heq
          cases heq
    | destructor c' =>
      have hm : (Actor.destructor c', RpcEvent.client (.pending (.waited slot r))) ∈ t := by
        rw [ht]
        simp [Deployment.wiring]
      rcases hx.destructor_event hm with heq | heq
      · cases heq
      · cases heq
    | server s => cases ha

/-- Why a call with an id hears something: its reply was handed over, was lost to an error of its own, or the whole
client failed. -/
inductive Cause (D : Deployment Call Client Server) (t : List (Actor Call Client Server × RpcEvent)) (c : Client)
    (id : Text) : WaitResult → Prop where
  | handled (message : Message) (deletion : Except AwsError Unit) (found : Bool) (r : WaitResult)
      (received : ReceivedFrom t (cString (D.client c).replyQueueUrl) message)
      (deleted : (Actor.dispatcher c, RpcEvent.client (.deleteMessage (cString (D.client c).replyQueueUrl)
        message.receiptHandle (.ok deletion))) ∈ t)
      (own : getStringAttribute message correlationIdAttribute = id)
      (finished : finishFor id (finishing D.sdk message deletion found) = some r) : Cause D t c id r
  | receiveFailed (error : AwsError)
      (failed :
        (Actor.dispatcher c, RpcEvent.client (.receiveMessage (replyReceive (D.client c)) (.ok (.error error)))) ∈ t) :
      Cause D t c id (.threw (awsError "ReceiveMessage".toList error))
  | shutDown (closed : (Actor.destructor c,
        RpcEvent.client (.pending (.closed "SQS client is shutting down".toList))) ∈ t) :
      Cause D t c id (.threw "SQS client is shutting down".toList)

theorem Execution.cause (hx : Execution D t outcome) {c : Client} {a : Actor Call Client Server}
    {x : PendingReplies.Event} {id : Text} {r : WaitResult} (ha : D.wiring.clientOf a = some c)
    (hm : (a, RpcEvent.client (.pending x)) ∈ t) (hr : finishFor id x = some r) : Cause D t c id r := by
  obtain ⟨before, after, ht⟩ := List.append_of_mem hm
  have hin : ∀ {b : Actor Call Client Server} {e : RpcEvent}, (b, e) ∈ before → (b, e) ∈ t := fun hb => by
    rw [ht]
    exact List.mem_append_left _ hb
  cases a with
  | call k =>
    obtain ⟨h, hd, -⟩ := hx.call_at ht
    rw [hd.finishes x id rfl] at hr
    cases hr
  | dispatcher c' =>
    obtain rfl : c' = c := Option.some.inj ha
    obtain ⟨h, hd, hmem⟩ := hx.dispatcher_at ht
    rcases hd.finishes x rfl with ⟨error, rest, hh, rfl⟩ | ⟨message, deletion, found, hhandled, rfl⟩
    · cases hr
      refine .receiveFailed error (hin ((hmem _).1 ?_))
      rw [hh]
      exact List.mem_cons_self
    · obtain ⟨rest, hh⟩ := hhandled.deleted
      obtain ⟨messages, hrec, hmessage⟩ := hhandled.received
      refine .handled message deletion found r ?_ (hin ((hmem _).1 ?_)) ?_ hr
      · exact ⟨_, replyReceive (D.client c'), messages, rfl, hmessage, Or.inl (hin ((hmem _).1 hrec))⟩
      · rw [hh]
        exact List.mem_cons_self
      · rcases finishing_finishes D.sdk message deletion found with ⟨bytes, hfin⟩ | ⟨what, hfin⟩
        · rw [hfin] at hr
          simp only [finishFor, Option.ite_none_right_eq_some] at hr
          exact hr.1
        · rw [hfin] at hr
          simp only [finishFor, Option.ite_none_right_eq_some] at hr
          exact hr.1
  | destructor c' =>
    obtain rfl : c' = c := Option.some.inj ha
    rcases hx.destructor_event hm with heq | heq
    · cases heq
    · cases heq
      cases hr
      exact .shutDown hm
  | server s => cases ha

/-- What a call has waited on, and the event on its client's map that finished its id, if any. -/
theorem Execution.wait (hx : Execution D t outcome) {k : Call} {slot : SlotRef} {r : WaitResult}
    {before after : List (Actor Call Client Server × RpcEvent)}
    (ht : t = before ++ (.call k, .client (.pending (.waited slot r))) :: after) :
    ∃ first second pre mid,
      before = pre ++ (.call k, .client (.pending (.registered (newCorrelationId first second) slot))) :: mid ∧
        (.call k, .client (.newCorrelationId first second)) ∈ pre ∧
        r = ((D.wiring.events (D.owner k) mid).findSome? (finishFor (newCorrelationId first second))).getD .timedOut := by
  obtain ⟨id, pre, mid, rfl, hout⟩ := hx.waiting.outcome (a := .call k) (c := D.owner k) rfl ht
  have hreg : t = pre ++ (.call k, .client (.pending (.registered id slot))) ::
      (mid ++ (.call k, .client (.pending (.waited slot r))) :: after) := by
    rw [ht]
    simp [Deployment.wiring]
  obtain ⟨h, hd, hmem⟩ := hx.call_at hreg
  obtain ⟨first, second, hdrew, rfl⟩ := hd.registers id slot rfl
  exact ⟨first, second, pre, mid, rfl, (hmem _).1 hdrew, hout⟩

theorem Execution.cause_of_wait (hx : Execution D t outcome) {k : Call} {id : Text} {r : WaitResult}
    {mid : List (Actor Call Client Server × RpcEvent)} (hmid : ∀ x ∈ mid, x ∈ t)
    (hout : r = ((D.wiring.events (D.owner k) mid).findSome? (finishFor id)).getD .timedOut) (hr : r ≠ .timedOut) :
    Cause D t (D.owner k) id r := by
  rcases PendingReplies.outcome_cases hout with ⟨hr', -⟩ | ⟨-, a, x, ha, hm, hfin⟩
  · exact absurd hr' hr
  · exact hx.cause ha (hmid _ hm) hfin

/-- **What a call's wait comes to**: it times out exactly when nothing on its client's map finished its id since it
registered it, and whatever else it reports has its cause. -/
theorem wait_explained (hx : Execution D t outcome) {k : Call} {slot : SlotRef} {r : WaitResult}
    {before after : List (Actor Call Client Server × RpcEvent)}
    (ht : t = before ++ (.call k, .client (.pending (.waited slot r))) :: after) :
    ∃ first second pre mid,
      before = pre ++ (.call k, .client (.pending (.registered (newCorrelationId first second) slot))) :: mid ∧
        (.call k, .client (.newCorrelationId first second)) ∈ pre ∧
        (r = .timedOut ↔ ∀ a x, D.wiring.clientOf a = some (D.owner k) → (a, .client (.pending x)) ∈ mid →
          finishFor (newCorrelationId first second) x = none) ∧
        (r ≠ .timedOut → Cause D t (D.owner k) (newCorrelationId first second) r) := by
  obtain ⟨first, second, pre, mid, hbefore, hdrew, hout⟩ := hx.wait ht
  refine ⟨first, second, pre, mid, hbefore, hdrew, ?_, hx.cause_of_wait (fun x hm => ?_) hout⟩
  · rcases PendingReplies.outcome_cases hout with ⟨hr, hnone⟩ | ⟨hr, a, x, ha, hm, hfin⟩
    · exact iff_of_true hr hnone
    · refine iff_of_false hr fun hnone => ?_
      have hnever := hnone a x ha hm
      rw [hfin] at hnever
      cases hnever
  · rw [ht, hbefore]
    simp [hm]

/-! ### What is sent -/

/-- The reply of a server's handler that succeeded on `payload`, sent for `id`. -/
def AnsweredBy (t : List (Actor Call Client Server × RpcEvent)) (s : Server) (payload : Bytes) (id : Text)
    (bytes : Bytes) : Prop :=
  ∃ before writes dedup sent outcome after, bytes = responseOf writes ∧
    sent.messageAttributes = [(correlationIdAttribute, id)] ∧
    ofActor (.server s) t = before ++ .server (processed payload writes) :: .server (.newCorrelationId dedup) ::
      .server (.sendMessage sent outcome) :: after

theorem decodePayload_encodePayload {sdk : Sdk} (h : sdk.Standard) {data : Option Bytes} {size : Nat} {body : Text}
    (hbody : encodePayload sdk data size = .ok body) : decodePayload sdk body = .ok ((data.getD []).take size) := by
  unfold encodePayload at hbody
  split at hbody
  · cases hbody
  dsimp only at hbody
  split at hbody
  · cases hbody
  obtain rfl := Except.ok.inj hbody
  rw [decodePayload_marked, h.encodes, decodeEncoded_encode h]

theorem messageAttributes_callRequest (config : SqsConfig) (first second : UInt64) (body : Text) :
    (callRequest config (newCorrelationId first second) body).messageAttributes.lookup correlationIdAttribute =
      some (newCorrelationId first second) := by
  unfold callRequest
  rw [messageAttributes_configureFifoMessage]
  split <;> simp

theorem Execution.call_sends (hx : Execution D t outcome) {k : Call} {sent : SendMessageRequest}
    (hs : Sent t (.call k) sent) :
    ∃ first second body, (Actor.call k, RpcEvent.client (.newCorrelationId first second)) ∈ t ∧
      encodePayload D.sdk (D.data k) (D.size k) = .ok body ∧
      sent = callRequest (D.config k) (newCorrelationId first second) body := by
  rcases hs with ⟨result, hm⟩ | ⟨result, hm⟩
  · obtain ⟨before, after, ht⟩ := List.append_of_mem hm
    obtain ⟨h, hd, hmem⟩ := hx.call_at ht
    obtain ⟨id, body, ⟨first, second, hdrew, rfl⟩, hbody, hsent⟩ := hd.sends sent result rfl
    refine ⟨first, second, body, ?_, hbody, hsent⟩
    rw [ht]
    exact List.mem_append_left _ ((hmem _).1 hdrew)
  · obtain ⟨s, hs⟩ := hx.server_of_event hm
    cases hs

theorem Execution.dispatcher_sends (hx : Execution D t outcome) {c : Client} {sent : SendMessageRequest} :
    ¬ Sent t (.dispatcher c) sent := by
  rintro (⟨result, hm⟩ | ⟨result, hm⟩)
  · obtain ⟨before, after, ht⟩ := List.append_of_mem hm
    obtain ⟨h, hd, -⟩ := hx.dispatcher_at ht
    exact hd.sends sent result rfl
  · obtain ⟨s, hs⟩ := hx.server_of_event hm
    cases hs

theorem Execution.destructor_sends (hx : Execution D t outcome) {c : Client} {sent : SendMessageRequest} :
    ¬ Sent t (.destructor c) sent := by
  rintro (⟨result, hm⟩ | ⟨result, hm⟩)
  · rcases hx.destructor_event hm with heq | heq
    · cases heq
    · cases heq
  · obtain ⟨s, hs⟩ := hx.server_of_event hm
    cases hs

/-- What a server sends answers a message it received, which names where to reply. -/
theorem Execution.server_sends (hx : Execution D t outcome) {s : Server} {sent : SendMessageRequest}
    (hs : Sent t (.server s) sent) :
    ∃ message payload writes body, ReceivedFrom t (cString (D.server s).requestQueueUrl) message ∧
      decodePayload D.sdk message.body = .ok payload ∧ getStringAttribute message replyToAttribute ≠ [] ∧
      encodePayload D.sdk (some (responseOf writes)) (responseOf writes).length = .ok body ∧ sent.messageBody = body ∧
      sent.messageAttributes = [(correlationIdAttribute, getStringAttribute message correlationIdAttribute)] ∧
      AnsweredBy t s payload (getStringAttribute message correlationIdAttribute) (responseOf writes) := by
  rcases hs with ⟨result, hm⟩ | ⟨result, hm⟩
  · exact absurd hm hx.not_server_of_event
  obtain ⟨before, after, ht⟩ := List.append_of_mem hm
  obtain ⟨h, hd, hbefore, hmem⟩ := hx.server_at ht
  obtain ⟨messages, message, payload, writes, dedup, body, earlier, hrec, hin, hpayload, hh, hbody, hurl, rfl⟩ :=
    hd sent result rfl
  have hattributes : (configureFifoMessage (replyRequest (replyQueueUrlOf (D.server s) message)
      (getStringAttribute message correlationIdAttribute) body) (replyQueueUrlOf (D.server s) message)
      (D.server s).messageGroupId dedup).messageAttributes =
      [(correlationIdAttribute, getStringAttribute message correlationIdAttribute)] := by
    rw [messageAttributes_configureFifoMessage, replyRequest, cString_getStringAttribute]
  refine ⟨message, payload, writes, body, ?_, hpayload, ?_, hbody, messageBody_configureFifoMessage .., hattributes, ?_⟩
  · have hr := (hmem _).1 hrec
    refine ⟨.server s, receiveRequest (D.server s), messages, rfl, hin, Or.inr ?_⟩
    rw [ht]
    exact List.mem_append_left _ hr
  · intro hnil
    apply hurl
    unfold replyQueueUrlOf
    split
    · rfl
    · exact hnil
  · refine ⟨earlier.reverse.map RpcEvent.server, writes, dedup, _, result, ofActor (.server s) after, rfl, hattributes, ?_⟩
    rw [ht, ofActor_append, ofActor_cons_self, hbefore, hh]
    simp

theorem getStringAttribute_of_lookup {message : Message} {name value : Text}
    (h : message.messageAttributes.lookup name = some value) : getStringAttribute message name = cString value := by
  rw [getStringAttribute, h]

/-- A message that names where to reply was sent by a call: a reply does not name it. -/
theorem Execution.request_of_received (hx : Execution D t outcome) (hstandard : D.sdk.Standard) {queueUrl : Text}
    {message : Message} {payload : Bytes} (hm : ReceivedFrom t queueUrl message)
    (hreply : getStringAttribute message replyToAttribute ≠ [])
    (hpayload : decodePayload D.sdk message.body = .ok payload) :
    ∃ k first second, (Actor.call k, RpcEvent.client (.newCorrelationId first second)) ∈ t ∧
      getStringAttribute message correlationIdAttribute = newCorrelationId first second ∧ payload = D.payload k := by
  obtain ⟨a, sent, hs, -, hbody, hattr⟩ := hx.delivers queueUrl message hm
  cases a with
  | call k =>
    obtain ⟨first, second, body, hdrew, hencoded, rfl⟩ := hx.call_sends hs
    refine ⟨k, first, second, hdrew, ?_, ?_⟩
    · have hid := hattr correlationIdAttribute
      rw [messageAttributes_callRequest] at hid
      rw [getStringAttribute_of_lookup hid, cString_newCorrelationId]
    · have hdecoded := decodePayload_encodePayload hstandard hencoded
      have hsent : message.body = body := by
        rw [hbody, callRequest, messageBody_configureFifoMessage]
      rw [← hsent, hpayload] at hdecoded
      exact Except.ok.inj hdecoded
  | dispatcher c => exact absurd hs hx.dispatcher_sends
  | destructor c => exact absurd hs hx.destructor_sends
  | server s =>
    obtain ⟨request, -, -, -, -, -, -, -, -, hattributes, -⟩ := hx.server_sends hs
    have hnone : message.messageAttributes.lookup replyToAttribute = none := by
      rw [hattr replyToAttribute, hattributes]
      rfl
    rw [getStringAttribute, hnone] at hreply
    exact absurd rfl hreply

theorem finishing_returned {sdk : Sdk} {message : Message} {deletion : Except AwsError Unit} {found : Bool} {id : Text}
    {bytes : Bytes} (hown : getStringAttribute message correlationIdAttribute = id)
    (hfin : finishFor id (finishing sdk message deletion found) = some (.returned bytes)) :
    deletion = .ok () ∧ decodePayload sdk message.body = .ok bytes := by
  unfold finishing at hfin
  rw [hown] at hfin
  cases deletion with
  | error error => simp [finishFor] at hfin
  | ok u =>
    cases hbody : decodePayload sdk message.body with
    | error what => simp [hbody, finishFor] at hfin
    | ok payload =>
      simp only [hbody, finishFor, if_true, Option.some.injEq, WaitResult.returned.injEq] at hfin
      exact ⟨rfl, by rw [hfin]⟩

/-- A two-way call that returns was handed a message with its id, which its dispatcher had deleted from the reply queue. -/
theorem Execution.handled_of_returned (hx : Execution D t outcome) {k : Call} {bytes : Bytes}
    (hway : (D.config k).oneWay = false) (hret : outcome k = .done bytes) :
    ∃ first second message, (Actor.call k, RpcEvent.client (.newCorrelationId first second)) ∈ t ∧
      ReceivedFrom t (cString (D.config k).replyQueueUrl) message ∧
      (Actor.dispatcher (D.owner k), RpcEvent.client (.deleteMessage (cString (D.config k).replyQueueUrl)
        message.receiptHandle (.ok (.ok ())))) ∈ t ∧
      getStringAttribute message correlationIdAttribute = newCorrelationId first second ∧
      decodePayload D.sdk message.body = .ok bytes := by
  obtain ⟨u, hu, hr⟩ := Prog.runs_under.1 (hx.calls k)
  rw [hret] at hr
  obtain ⟨slot, hm⟩ := safe_callClient.post hr (Prog.admits_true _ _) hway bytes rfl
  have hmem : (Actor.call k, RpcEvent.client (.pending (.waited slot (.returned bytes)))) ∈ t := by
    rw [← mem_ofActor, hu]
    exact List.mem_map_of_mem (by simpa using hm)
  obtain ⟨before, after, ht⟩ := List.append_of_mem hmem
  obtain ⟨first, second, pre, mid, hbefore, hpre, hout⟩ := hx.wait ht
  have hdrew : (Actor.call k, RpcEvent.client (.newCorrelationId first second)) ∈ t := by
    rw [ht, hbefore]
    simp [hpre]
  have hcause := hx.cause_of_wait (fun x hm => by rw [ht, hbefore]; simp [hm]) hout nofun
  cases hcause with
  | handled message deletion found r hreceived hdeleted hown hfin =>
    obtain ⟨rfl, hbytes⟩ := finishing_returned hown hfin
    exact ⟨first, second, message, hdrew, hreceived, hdeleted, hown, hbytes⟩

/-- A server that sent what a message with the id of a call carries answered that call. -/
theorem Execution.answered_of_sent (hx : Execution D t outcome) (hstandard : D.sdk.Standard) {k : Call}
    {first second : UInt64} (hdrew : (Actor.call k, RpcEvent.client (.newCorrelationId first second)) ∈ t) {s : Server}
    {sent : SendMessageRequest} (hs : Sent t (.server s) sent) {message : Message} {bytes : Bytes}
    (hbody : message.body = sent.messageBody)
    (hattr : ∀ name, message.messageAttributes.lookup name = sent.messageAttributes.lookup name)
    (hown : getStringAttribute message correlationIdAttribute = newCorrelationId first second)
    (hbytes : decodePayload D.sdk message.body = .ok bytes) :
    AnsweredBy t s (D.payload k) (newCorrelationId first second) bytes := by
  obtain ⟨request, payload, writes, body, hrequest, hpayload, hnamed, hencoded, hsent, hattributes, hanswered⟩ :=
    hx.server_sends hs
  have hdecoded := decodePayload_encodePayload hstandard hencoded
  rw [← hsent, ← hbody, hbytes] at hdecoded
  have hresponse : bytes = responseOf writes := by
    have := Except.ok.inj hdecoded
    rwa [Option.getD_some, List.take_length] at this
  have hid : newCorrelationId first second = getStringAttribute request correlationIdAttribute := by
    have hlookup := hattr correlationIdAttribute
    rw [hattributes, List.lookup_cons_self] at hlookup
    rw [← hown, getStringAttribute_of_lookup hlookup, cString_getStringAttribute]
  -- a request with the id of the call is the call's own
  obtain ⟨k', first', second', hdrew', hid', rfl⟩ := hx.request_of_received hstandard hrequest hnamed hpayload
  rw [← hid] at hid' hanswered
  obtain ⟨rfl, rfl⟩ := newCorrelationId_inj.1 hid'
  obtain rfl := hx.distinct k k' first second hdrew hdrew'
  rwa [hresponse]

end Run

/-! ### An execution -/

section Demo

def demoConfig : SqsConfig where
  requestQueueUrl := ['q']
  replyQueueUrl := ['r']

def demo : Deployment Unit Unit Unit where
  sdk := standardSdk
  client _ := demoConfig
  server _ := demoConfig
  owner _ := ()
  data _ := some [7]
  size _ := 1

def demoId : Text := newCorrelationId 1 2

def demoBody (bytes : Bytes) : Text := payloadPrefix ++ standardSdk.base64Encode bytes

def demoRequest : SendMessageRequest := callRequest demoConfig demoId (demoBody [7])

def demoReply : SendMessageRequest :=
  configureFifoMessage (replyRequest ['r'] demoId (demoBody [8])) ['r'] demoConfig.messageGroupId ['d']

/-- What the queue makes of a request. -/
def deliveredAs (sent : SendMessageRequest) : Message := ⟨sent.messageBody, ['1'], sent.messageAttributes⟩

def demoCall : List ClientEvent :=
  [.newCorrelationId 1 2, .startedLoaded true, .pending (.registered demoId 0), .sendMessage demoRequest (.ok (.ok ()))]

def demoReturn : List ClientEvent := [.pending (.waited 0 (.returned [8])), .pending .destroyed]

def demoServe : List Event :=
  [.createClient (.ok ()), .stopRequested false,
    .receiveMessage (receiveRequest demoConfig) (.ok (.ok [deliveredAs demoRequest])),
    .stopRequested false, processed [7] [some [8]], .newCorrelationId ['d'], .sendMessage demoReply (.ok (.ok ())),
    .deleteMessage ['q'] ['1'] (.ok (.ok ()))]

def demoDispatch : List ClientEvent :=
  [.stoppingLoaded false, .waitForPending true,
    .receiveMessage (replyReceive demoConfig) (.ok (.ok [deliveredAs demoReply])),
    .deleteMessage ['r'] ['1'] (.ok (.ok ())), .pending (.completed demoId [8] true)]

def demoTrace : List (Actor Unit Unit Unit × RpcEvent) :=
  demoCall.map (fun e => (.call (), .client e)) ++ demoServe.map (fun e => (.server (), .server e)) ++
    demoDispatch.map (fun e => (.dispatcher (), .client e)) ++ demoReturn.map (fun e => (.call (), .client e))

theorem standardSdk_standard : standardSdk.Standard :=
  ⟨fun _ => rfl, fun bytes => Rfc4648.decode_encode rfl (by decide +kernel) pad_not_mem bytes⟩

theorem demoCall_runs :
    (callClient standardSdk demoConfig (some [7]) 1).Runs (demoCall ++ demoReturn) (.done [8]) := by
  unfold callClient sendRequest
  refine Prog.runs_ask.2 ⟨(1, 2), rfl, ?_⟩
  refine Prog.runs_ask.2 ⟨true, rfl, ?_⟩
  refine Prog.runs_ask.2 ⟨.ok 0, rfl, ?_⟩
  refine Prog.runs_ask.2 ⟨.ok (.ok ()), rfl, ?_⟩
  refine Prog.runs_ask.2 ⟨.returned [8], rfl, ?_⟩
  refine Prog.runs_ask.2 ⟨(), rfl, ?_⟩
  exact ⟨rfl, rfl⟩

theorem demoServe_runs : (start standardSdk demoConfig true 1).Runs demoServe .cut := by
  unfold start receive handleMessages
  refine Prog.runs_ask.2 ⟨.ok (), rfl, ?_⟩
  refine Prog.runs_ask.2 ⟨false, rfl, ?_⟩
  refine Prog.runs_ask.2 ⟨.ok (.ok [deliveredAs demoRequest]), rfl, ?_⟩
  refine Prog.runs_ask.2 ⟨false, rfl, ?_⟩
  refine Prog.runs_ask.2 ⟨([some [8]], .ok true), rfl, ?_⟩
  refine Prog.runs_ask.2 ⟨['d'], rfl, ?_⟩
  refine Prog.runs_ask.2 ⟨.ok (.ok ()), rfl, ?_⟩
  refine Prog.runs_ask.2 ⟨.ok (.ok ()), rfl, ?_⟩
  exact ⟨rfl, rfl⟩

theorem demoDispatch_runs : (dispatchReplies standardSdk demoConfig 1).Runs demoDispatch .cut := by
  unfold dispatchReplies dispatchMessages
  refine Prog.runs_ask.2 ⟨false, rfl, ?_⟩
  refine Prog.runs_ask.2 ⟨true, rfl, ?_⟩
  refine Prog.runs_ask.2 ⟨.ok (.ok [deliveredAs demoReply]), rfl, ?_⟩
  refine Prog.runs_ask.2 ⟨.ok (.ok ()), rfl, ?_⟩
  refine Prog.runs_ask.2 ⟨true, rfl, ?_⟩
  exact ⟨rfl, rfl⟩

theorem demo_delivers : Delivers demoTrace := by
  rintro queueUrl message ⟨a, request, messages, rfl, hm, hrec⟩
  simp only [demoTrace, demoCall, demoServe, demoDispatch, demoReturn, processed, List.map_cons, List.map_nil,
    List.cons_append, List.nil_append, List.mem_cons, Prod.mk.injEq, reduceCtorEq, RpcEvent.client.injEq,
    RpcEvent.server.injEq, ClientEvent.receiveMessage.injEq, Event.receiveMessage.injEq, Except.ok.injEq, and_false, false_or, List.not_mem_nil,
    or_false] at hrec
  rcases hrec with ⟨rfl, rfl, rfl⟩ | ⟨rfl, rfl, rfl⟩
  · obtain rfl := List.mem_singleton.1 hm
    exact ⟨.server (), demoReply, Or.inr ⟨.ok (.ok ()), by simp [demoTrace, demoServe]⟩, rfl, rfl, fun _ => rfl⟩
  · obtain rfl := List.mem_singleton.1 hm
    exact ⟨.call (), demoRequest, Or.inl ⟨.ok (.ok ()), by simp [demoTrace, demoCall]⟩, rfl, rfl, fun _ => rfl⟩

theorem demo_execution : Execution demo demoTrace fun _ => .done [8] where
  calls _ := Prog.runs_under.2 ⟨demoCall ++ demoReturn, rfl, demoCall_runs⟩
  dispatchers _ := ⟨1, .cut, Prog.runs_under.2 ⟨demoDispatch, rfl, demoDispatch_runs⟩⟩
  destructors _ := ⟨.cut, Prog.runs_under.2 ⟨[], rfl, Or.inl ⟨rfl, rfl⟩⟩⟩
  servers _ := ⟨true, 1, .cut, Prog.runs_under.2 ⟨demoServe, rfl, demoServe_runs⟩⟩
  maps _ := ⟨[.register () demoId, .complete demoId [8], .wait (), .destroy ()], _, rfl⟩
  delivers := demo_delivers
  distinct _ _ _ _ _ _ := rfl

theorem wait_explained_demo : ∃ first second pre mid,
    (demoCall.map (fun e => (.call (), .client e)) ++ demoServe.map (fun e => (.server (), .server e)) ++
        demoDispatch.map (fun e => (.dispatcher (), .client e)) : List (Actor Unit Unit Unit × RpcEvent)) =
      pre ++ (.call (), .client (.pending (.registered (newCorrelationId first second) 0))) :: mid ∧
      (.call (), .client (.newCorrelationId first second)) ∈ pre ∧
      (WaitResult.returned [8] = .timedOut ↔ ∀ a x, demo.wiring.clientOf a = some () →
        (a, .client (.pending x)) ∈ mid → finishFor (newCorrelationId first second) x = none) ∧
      (WaitResult.returned [8] ≠ .timedOut →
        Cause demo demoTrace () (newCorrelationId first second) (.returned [8])) :=
  have ht : demoTrace = (demoCall.map (fun e => (.call (), .client e)) ++ demoServe.map (fun e => (.server (), .server e)) ++
      demoDispatch.map (fun e => (.dispatcher (), .client e))) ++
        (.call (), .client (.pending (.waited 0 (.returned [8])))) :: [(.call (), .client (.pending .destroyed))] := rfl
  wait_explained demo_execution ht

end Demo

end Rpc
end Sqs
end Graftcode
