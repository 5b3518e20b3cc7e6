import Graftcode.PubSubSession
import Graftcode.Served
/-!
# PubSubServer — the receive loop of the Pub/Sub gateway

`HandleMessage` and `PubSubServer::start` of `PubSubServer.cpp`.  Logging, sleeping and the looks at the flag that decide
only about these leave no event.
-/
namespace Graftcode
namespace PubSub

open Prog (emit call ofExcept attempt iterate forEach Keeps)

/-- `processMessage(data, size, writeResponse, &response)`: what it returned, and the response vector after it. -/
def processMessage (payload : Bytes) : Prog Error Event (Bool × Bytes) :=
  emit (fun r : List (Option Bytes) × Except Exn Bool => Event.processMessage payload r.1 r.2) >>= fun r =>
    ofExcept ((r.2.mapError Error.exn).map fun processed => (processed, responseOf r.1))

/-- The end of `HandleMessage`. -/
def acknowledgeMessage (config : PubSubConfig) (message : PulledMessage) : Prog Error Event Unit :=
  if message.ackId.isEmpty then pure ()
  else attempt Error.isStd (acknowledge config config.requestSubscription [message.ackId]) >>= fun _ => pure ()

def correlationIdOf (message : PulledMessage) : Text := attributeOf message.attributes correlationIdAttribute

/-- Empty when the server is one-way. -/
def replyToOf (config : PubSubConfig) (message : PulledMessage) : Text :=
  if config.oneWay then [] else attributeOf message.attributes replyToAttribute

/-- The reply, unless there is no one to send it to; `none` when it failed. -/
def publishReply (config : PubSubConfig) (replyTo correlationId : Text) (response : Bytes) :
    Prog Error Event (Option Unit) :=
  if replyTo.isEmpty then pure (some ())
  else attempt Error.isStd (publish config replyTo response [(correlationIdAttribute, correlationId)])

def handleMessage (config : PubSubConfig) (message : PulledMessage) : Prog Error Event Unit :=
  let correlationId := correlationIdOf message
  let replyTo := replyToOf config message
  if !config.oneWay && (correlationId.isEmpty || !isValidResourceId replyTo) then pure ()
  else do
    let processed ← attempt Error.isStd (processMessage message.data)
    match processed with
    | some (true, response) =>
      let published ← publishReply config replyTo correlationId response
      match published with
      | some () => acknowledgeMessage config message
      | none    => pure ()
    | _ => pure ()

/-- The candidate session of `start`, with its topic and subscription when it creates them. -/
def openSession (config : PubSubConfig) : Prog Error Event Unit := do
  call Event.newSession
  if config.autoCreate then
    ensureTopic config config.requestTopic
    ensureSubscription config config.requestSubscription config.requestTopic
  else pure ()

/-- The first `while` of `start`. -/
def setUp (config : PubSubConfig) : Nat → Prog Error Event Unit :=
  fun fuel => iterate (fun _ : Unit => do
    let stop ← emit Event.stopRequested
    if stop then pure (.inr ())
    else
      let session ← attempt Error.isStd (openSession config)
      match session with
      | some () => pure (.inr ())
      | none    => pure (.inl ())) fuel ()

/-- The `for` over a batch. -/
def handleBatch (config : PubSubConfig) (batch : List PulledMessage) : Prog Error Event Unit :=
  forEach (fun message => do
    let stop ← emit Event.stopRequested
    if stop then pure false
    else
      handleMessage config message
      pure true) batch

/-- The second `while` of `start`. -/
def receive (parse : Text → Option Json) (config : PubSubConfig) : Nat → Prog Error Event Unit :=
  fun fuel => iterate (fun _ : Unit => do
    let stop ← emit Event.stopRequested
    if stop then pure (.inr ())
    else
      let _ ← attempt Error.isStd (pull parse config config.requestSubscription 1 >>= handleBatch config)
      pure (.inl ())) fuel ()

def notConfigured : Error := .exn (.std "Pub/Sub server: processMessage callback is not configured".toList)

/-- `start`, once it has set `running_`; both loops run for as long as they are observed. -/
def start (parse : Text → Option Json) (config : PubSubConfig) (configured : Bool) (fuel fuel' : Nat) :
    Prog Error Event Unit :=
  (do
    ofExcept ((validateServerConfig config).mapError fun what => Error.exn (.std what))
    if configured then pure () else Prog.throw notConfigured
    setUp config fuel
    receive parse config fuel').tryCatch fun _ => pure ()

/-! ## What an acknowledged request has been through -/

def processed (payload : Bytes) (writes : List (Option Bytes)) : Event := .processMessage payload writes (.ok true)

/-- A reply was accepted by its topic. -/
def replied (config : PubSubConfig) (topic : Text) (correlationId : Option Text) (response : Bytes) (e : Event) :
    Prop :=
  ∃ id answer, correlationId = some id ∧
    e = .request (publishRequest config topic response [(correlationIdAttribute, id)]) answer ∧ Succeeded answer

def consumer (config : PubSubConfig) : Consumer Event where
  processed := processed
  replied := replied config
  quiet _ := False

def requestOf (config : PubSubConfig) (message : PulledMessage) : Request where
  payload := message.data
  correlationId := some (correlationIdOf message)
  replyTo := if config.oneWay then none else some (attributeOf message.attributes replyToAttribute)

/-- `batch` is what the latest pull of the history delivered. -/
def Delivered (parse : Text → Option Json) (config : PubSubConfig) (batch : List PulledMessage) (h : List Event) :
    Prop :=
  ∃ later answer earlier,
    h = later ++ .request (pullRequest config config.requestSubscription 1) answer :: earlier ∧
      pulled parse config.requestSubscription answer = .ok batch ∧
      ∀ sent answer', .request sent answer' ∈ later → ∀ subscription n, sent ≠ pullRequest config subscription n

/-- An event that acknowledges does so for a message of the latest delivery that was served just before. -/
def AcknowledgedServed (parse : Text → Option Json) (config : PubSubConfig) (h : List Event) (e : Event) : Prop :=
  ∀ config' subscription ackIds answer, e = .request (acknowledgeRequest config' subscription ackIds) answer →
    ∃ batch message, Delivered parse config batch h ∧ message ∈ batch ∧ ackIds = [message.ackId] ∧
      (consumer config).Served (requestOf config message) h

section Logic

variable {parse : Text → Option Json} {config : PubSubConfig}

theorem Delivered.cons {batch : List PulledMessage} {h : List Event} (hd : Delivered parse config batch h) (e : Event)
    (he : ∀ sent answer, e = .request sent answer → ∀ subscription n, sent ≠ pullRequest config subscription n) :
    Delivered parse config batch (e :: h) := by
  obtain ⟨later, answer, earlier, rfl, hp, hl⟩ := hd
  refine ⟨e :: later, answer, earlier, rfl, hp, fun sent answer' hm => ?_⟩
  rcases List.mem_cons.1 hm with heq | hm
  · exact he sent answer' heq.symm
  · exact hl sent answer' hm

theorem Delivered.request {batch : List PulledMessage} {h : List Event} (hd : Delivered parse config batch h)
    {sent : HttpRequest} (answer : Except Error HttpResult)
    (hk : sent.keys ≠ ["maxMessages".toList, "returnImmediately".toList]) :
    Delivered parse config batch (.request sent answer :: h) :=
  hd.cons _ fun sent' _ heq _ _ hsent => hk (by cases heq; rw [hsent, keys_pullRequest])

theorem delivered_pull {batch : List PulledMessage} {answer : Except Error HttpResult} (h : List Event)
    (hp : pulled parse config.requestSubscription answer = .ok batch) :
    Delivered parse config batch (.request (pullRequest config config.requestSubscription 1) answer :: h) :=
  ⟨[], answer, h, rfl, hp, fun _ _ hm => by cases hm⟩

theorem acknowledgedServed_of_ne {h : List Event} {e : Event}
    (he : ∀ config' subscription ackIds answer, e ≠ .request (acknowledgeRequest config' subscription ackIds) answer) :
    AcknowledgedServed parse config h e :=
  fun config' subscription ackIds answer heq => absurd heq (he config' subscription ackIds answer)

theorem acknowledgedServed_of_keys {h : List Event} {sent : HttpRequest} {answer : Except Error HttpResult}
    (hk : sent.keys ≠ ["ackIds".toList]) : AcknowledgedServed parse config h (.request sent answer) :=
  acknowledgedServed_of_ne fun _ _ _ _ heq => hk (by cases heq; rfl)

theorem acknowledgeRequest_ackIds {config' : PubSubConfig} {sub sub' : Text} {ackIds ackIds' : List Text}
    (h : acknowledgeRequest config sub ackIds = acknowledgeRequest config' sub' ackIds') : ackIds = ackIds' := by
  have := congrArg HttpRequest.body h
  simp only [acknowledgeRequest, serviceRequest, Json.object.injEq, List.cons.injEq, Prod.mk.injEq,
    Json.array.injEq, true_and, and_true] at this
  exact List.map_injective_iff.2 (fun _ _ h => Json.string.inj h) this

/-- An event that publishes does so for a message of the latest delivery, with the response just written. -/
def PublishedProcessed (parse : Text → Option Json) (config : PubSubConfig) (h : List Event) (e : Event) : Prop :=
  ∀ config' topic data attributes answer, e = .request (publishRequest config' topic data attributes) answer →
    ∃ batch message writes earlier, Delivered parse config batch h ∧ message ∈ batch ∧
      isValidResourceId (attributeOf message.attributes replyToAttribute) = true ∧
      h = processed message.data writes :: earlier ∧
      e = .request (publishRequest config (attributeOf message.attributes replyToAttribute) (responseOf writes)
        [(correlationIdAttribute, correlationIdOf message)]) answer

theorem publishedProcessed_of_ne {h : List Event} {e : Event}
    (he : ∀ config' topic data attributes answer, e ≠ .request (publishRequest config' topic data attributes) answer) :
    PublishedProcessed parse config h e :=
  fun config' topic data attributes answer heq => absurd heq (he config' topic data attributes answer)

theorem publishedProcessed_of_keys {h : List Event} {sent : HttpRequest} {answer : Except Error HttpResult}
    (hk : sent.keys ≠ ["messages".toList]) : PublishedProcessed parse config h (.request sent answer) :=
  publishedProcessed_of_ne fun _ _ _ _ _ heq => hk (by cases heq; rfl)

def Discipline (parse : Text → Option Json) (config : PubSubConfig) (h : List Event) (e : Event) : Prop :=
  AcknowledgedServed parse config h e ∧ PublishedProcessed parse config h e

theorem discipline_of_no_request {h : List Event} {e : Event} (he : ∀ sent answer, e ≠ .request sent answer) :
    Discipline parse config h e :=
  ⟨acknowledgedServed_of_ne fun _ _ _ _ => he _ _, publishedProcessed_of_ne fun _ _ _ _ _ => he _ _⟩

theorem discipline_of_keys {h : List Event} {sent : HttpRequest} (answer : Except Error HttpResult)
    (hack : sent.keys ≠ ["ackIds".toList]) (hpublish : sent.keys ≠ ["messages".toList]) :
    Discipline parse config h (.request sent answer) :=
  ⟨acknowledgedServed_of_keys hack, publishedProcessed_of_keys hpublish⟩

theorem safe_acknowledgeMessage {batch : List PulledMessage} {message : PulledMessage} {h : List Event}
    (hm : message ∈ batch) (hd : Delivered parse config batch h)
    (hs : (consumer config).Served (requestOf config message) h) :
    (acknowledgeMessage config message).Safe (fun _ _ => True) (Discipline parse config)
      (fun h' _ => Delivered parse config batch h') h := by
  unfold acknowledgeMessage
  split
  · exact hd
  simp only [Prog.safe_bind, Prog.safe_attempt, safe_acknowledge]
  intro answer _
  have hkeep := @Delivered.request _ _ _ _ hd (acknowledgeRequest config config.requestSubscription [message.ackId])
    answer (by simp)
  refine ⟨⟨fun config' sub ackIds answer' heq => ?_, publishedProcessed_of_keys (by simp)⟩, ?_⟩
  · exact ⟨batch, message, hd, hm, (acknowledgeRequest_ackIds (Event.request.inj heq).1).symm, hs⟩
  · cases checked ("Acknowledge ".toList ++ config.requestSubscription) answer with
    | ok u => exact hkeep
    | error e =>
      rw [Prog.attempted_error]
      split <;> exact hkeep

theorem safe_publishReply {batch : List PulledMessage} {message : PulledMessage} {h : List Event}
    {writes : List (Option Bytes)} (hm : message ∈ batch)
    (hd : Delivered parse config batch (processed message.data writes :: h))
    (hreply : config.oneWay = false → isValidResourceId (replyToOf config message) = true) :
    (publishReply config (replyToOf config message) (correlationIdOf message) (responseOf writes)).Safe
      (fun _ _ => True) (Discipline parse config)
      (fun h' r => Delivered parse config batch h' ∧
        (r = .ok (some ()) → (consumer config).Served (requestOf config message) h'))
      (processed message.data writes :: h) := by
  unfold publishReply
  cases hway : config.oneWay with
  | true =>
    have hempty : replyToOf config message = [] := by rw [replyToOf, hway]; rfl
    rw [hempty]
    exact ⟨hd, fun _ => Consumer.served_of_none (by rw [requestOf, hway]; rfl) rfl⟩
  | false =>
    have hto : replyToOf config message = attributeOf message.attributes replyToAttribute := by rw [replyToOf, hway]; rfl
    have hto' : (requestOf config message).replyTo = some (attributeOf message.attributes replyToAttribute) := by
      rw [requestOf, hway]
      rfl
    have hvalid := hreply hway
    rw [if_neg (by simpa using isValidResourceId_ne_nil hvalid), hto]
    rw [hto] at hvalid
    simp only [Prog.safe_attempt, safe_publish]
    split
    · exact ⟨hd, nofun⟩
    intro answer _
    have hd' := @Delivered.request _ _ _ _ hd (publishRequest config (attributeOf message.attributes replyToAttribute)
      (responseOf writes) [(correlationIdAttribute, correlationIdOf message)]) answer (by simp)
    refine ⟨⟨acknowledgedServed_of_keys (by simp), fun config' topic data attributes answer' heq => ?_⟩, ?_⟩
    · exact ⟨batch, message, writes, h, hd, hm, hvalid, rfl, by rw [(Event.request.inj heq).2]⟩
    · cases hc : checked ("Publish ".toList ++ attributeOf message.attributes replyToAttribute) answer with
      | ok u =>
        exact ⟨hd', fun _ => @Consumer.served_of_some _ (consumer config) _ _ writes h [] _ _ hto' rfl (by simp)
          ⟨_, answer, rfl, rfl, checked_ok.1 hc⟩⟩
      | error e =>
        rw [Prog.attempted_error]
        split <;> exact ⟨hd', nofun⟩

theorem safe_handleMessage {batch : List PulledMessage} {message : PulledMessage} {h : List Event}
    (hm : message ∈ batch) (hd : Delivered parse config batch h) :
    (handleMessage config message).Safe (fun _ _ => True) (Discipline parse config)
      (fun h' _ => Delivered parse config batch h') h := by
  unfold handleMessage
  dsimp only
  split
  · exact hd
  rename_i hguard
  have hreply : config.oneWay = false → isValidResourceId (replyToOf config message) = true := by
    intro hway
    rw [hway] at hguard
    simp only [Bool.not_false, Bool.true_and, Bool.or_eq_true, Bool.not_eq_true', not_or, Bool.not_eq_false] at hguard
    exact hguard.2
  simp only [processMessage, Prog.safe_bind, Prog.safe_attempt, Prog.safe_emit, Prog.andThen_ok, Prog.safe_ofExcept]
  rintro ⟨writes, result⟩ -
  refine ⟨discipline_of_no_request nofun, ?_⟩
  have hd' := hd.cons (.processMessage message.data writes result) nofun
  match result with
  | .error e =>
    simp only [Except.mapError, Except.map, Prog.attempted_error]
    split <;> exact hd'
  | .ok false => exact hd'
  | .ok true =>
    simp only [Except.mapError, Except.map, Prog.attempted_ok, Prog.andThen_ok, Prog.safe_bind]
    refine (safe_publishReply hm hd' hreply).mono fun h' r hr => ?_
    match r with
    | .ok (some ()) => exact safe_acknowledgeMessage hm hr.1 (hr.2 rfl)
    | .ok none => exact hr.1
    | .error e => exact hr.1

theorem keeps_handleBatch {batch : List PulledMessage} {h : List Event} (hd : Delivered parse config batch h) :
    Keeps (fun _ _ => True) (Discipline parse config) (handleBatch config batch) h := by
  refine Prog.safe_forEach (Delivered parse config batch) (fun _ _ => trivial) batch (fun message hm h hd => ?_) h hd
  simp only [Prog.safe_bind, Prog.safe_emit, Prog.andThen_ok]
  intro stop _
  refine ⟨discipline_of_no_request nofun, ?_⟩
  have hd' := hd.cons (.stopRequested stop) nofun
  split
  · exact hd'
  simp only [Prog.safe_bind]
  refine (safe_handleMessage hm hd').mono fun h' r hr => ?_
  cases r with
  | ok u => exact hr
  | error e => trivial

theorem keeps_receive (fuel : Nat) (h : List Event) :
    Keeps (fun _ _ => True) (Discipline parse config) (receive parse config fuel) h := by
  refine Prog.keeps_iterate (fun _ h => ?_) fuel () h
  refine Prog.keeps_emit_bind (fun _ => discipline_of_no_request nofun) fun stop => ?_
  split
  · trivial
  refine Prog.Safe.keeps_bind (Prog.Safe.keeps_attempt ?_) fun _ _ _ => trivial
  rw [Keeps, Prog.safe_bind, safe_pull]
  intro answer _
  refine ⟨discipline_of_keys answer (by simp) (by simp), ?_⟩
  cases hp : pulled parse config.requestSubscription answer with
  | error e => trivial
  | ok batch => exact keeps_handleBatch (delivered_pull _ hp)

theorem keeps_openSession (h : List Event) :
    Keeps (fun _ _ => True) (Discipline parse config) (openSession config) h := by
  refine Prog.keeps_call_bind (fun _ => discipline_of_no_request nofun) fun _ => ?_
  split
  · have htopic : Keeps (fun _ _ => True) (Discipline parse config) (ensureTopic config config.requestTopic)
        (.newSession (.ok ()) :: h) :=
      (safe_ensureTopic ..).mpr fun answer _ => ⟨discipline_of_keys answer (by simp) (by simp), trivial⟩
    refine htopic.keeps_bind fun _ h' _ => ?_
    exact (safe_ensureSubscription ..).mpr fun answer _ => ⟨discipline_of_keys answer (by simp) (by simp), trivial⟩
  · trivial

theorem keeps_setUp (fuel : Nat) (h : List Event) :
    Keeps (fun _ _ => True) (Discipline parse config) (setUp config fuel) h := by
  refine Prog.keeps_iterate (fun _ h => ?_) fuel () h
  refine Prog.keeps_emit_bind (fun _ => discipline_of_no_request nofun) fun stop => ?_
  split
  · trivial
  refine (keeps_openSession _).keeps_attempt.keeps_bind fun session _ _ => ?_
  cases session <;> trivial

/-- **Every run of the server keeps the discipline.** -/
theorem start_admits {configured : Bool} {fuel fuel' : Nat} {t : List Event} {o : Outcome Error Unit}
    (hr : (start parse config configured fuel fuel').Runs t o) : Prog.Admits (Discipline parse config) [] t := by
  refine Prog.Safe.admits_of_keeps (p := start parse config configured fuel fuel') ?_ hr
  refine Prog.Safe.keeps_tryCatch ?_ fun _ _ => trivial
  rw [Keeps, Prog.safe_bind, Prog.safe_ofExcept]
  cases (validateServerConfig config).mapError fun what => Error.exn (.std what) with
  | error e => trivial
  | ok u =>
    cases configured with
    | false => trivial
    | true => exact (keeps_setUp fuel []).keeps_bind fun _ _ _ => keeps_receive fuel' _

end Logic

end PubSub
end Graftcode
