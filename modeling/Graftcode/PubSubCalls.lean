import Graftcode.PubSubClient
/-!
# PubSubCalls — what the threads of a client keep to

A call publishes nothing but its own payload, under an id it drew, to the request topic; it waits once, on a slot it
registered under that id.  The dispatcher publishes nothing, and completes an id only with the data of a message it
pulled for that id.  Both hold whatever the outside answers.
-/
namespace Graftcode
namespace PubSub

open Prog (Keeps)

abbrev Unwaited (h : List Event) : Prop := PendingReplies.Unwaited Event.pending h

/-- A publish request is the call's own, for an id it drew. -/
def PublishesOwn (config : PubSubConfig) (payload : Bytes) (h : List Event) (e : Event) : Prop :=
  ∀ config' topic data attributes answer, e = .request (publishRequest config' topic data attributes) answer →
    ∃ id, .newCorrelationId id ∈ h ∧
      e = .request (publishRequest config config.requestTopic payload (requestAttributes config id)) answer

/-- A wait is the first one, on a slot registered under an id the call drew. -/
def WaitsOwn (h : List Event) (e : Event) : Prop :=
  ∀ slot r, e = .pending (.waited slot r) →
    ∃ id, .newCorrelationId id ∈ h ∧ .pending (.registered id slot) ∈ h ∧ Unwaited h

structure CallDiscipline (config : PubSubConfig) (payload : Bytes) (h : List Event) (e : Event) : Prop where
  published : PublishesOwn config payload h e
  waits : WaitsOwn h e
  uncompleted : ∀ id bytes found, e ≠ .pending (.completed id bytes found)

/-- A reply is completed with the data of a pulled message that carries its id. -/
def CompletesPulled (parse : Text → Option Json) (config : PubSubConfig) (h : List Event) (e : Event) : Prop :=
  ∀ id bytes found, e = .pending (.completed id bytes found) →
    ∃ answer batch message, .request (pullRequest config config.replySubscription config.maxMessages) answer ∈ h ∧
      pulled parse config.replySubscription answer = .ok batch ∧ message ∈ batch ∧
      message.attributes.lookup correlationIdAttribute = some id ∧ message.data = bytes

structure DispatchDiscipline (parse : Text → Option Json) (config : PubSubConfig) (h : List Event) (e : Event) :
    Prop where
  completed : CompletesPulled parse config h e
  unpublished : ∀ config' topic data attributes answer,
    e ≠ .request (publishRequest config' topic data attributes) answer
  unregistered : ∀ id slot, e ≠ .pending (.registered id slot)
  unwaited : ∀ slot r, e ≠ .pending (.waited slot r)

section Calls

variable {config : PubSubConfig} {payload : Bytes} {h : List Event}

theorem callDiscipline_free {e : Event}
    (hp : ∀ config' topic data attributes answer, e ≠ .request (publishRequest config' topic data attributes) answer)
    (hw : ∀ slot r, e ≠ .pending (.waited slot r))
    (hc : ∀ id bytes found, e ≠ .pending (.completed id bytes found)) : CallDiscipline config payload h e where
  published _ _ _ _ _ heq := absurd heq (hp _ _ _ _ _)
  waits _ _ heq := absurd heq (hw _ _)
  uncompleted := hc

theorem callDiscipline_keys {sent : HttpRequest} (answer : Except Error HttpResult)
    (hk : sent.keys ≠ ["messages".toList]) : CallDiscipline config payload h (.request sent answer) :=
  callDiscipline_free (fun _ _ _ _ _ heq => hk (by cases heq; rfl)) nofun nofun

theorem callDiscipline_own {id : Text} (hd : .newCorrelationId id ∈ h) (answer : Except Error HttpResult) :
    CallDiscipline config payload h
      (.request (publishRequest config config.requestTopic payload (requestAttributes config id)) answer) where
  published _ _ _ _ _ heq := ⟨id, hd, by rw [(Event.request.inj heq).2]⟩
  waits _ _ heq := nomatch heq
  uncompleted _ _ _ heq := nomatch heq

/-! ### The parts of a call that leave the map alone -/

section Quiet

/- Any invariant of the history that only events of the map can break. -/
variable {I : List Event → Prop} (hI : ∀ h e, (∀ event, e ≠ .pending event) → I h → I (e :: h))
include hI

theorem safe_createResources (h : List Event) (hh : I h) :
    (createResources config).Safe (fun _ _ => True) (CallDiscipline config payload) (fun h' _ => I h') h := by
  unfold createResources
  split
  · simp only [Prog.safe_bind, safe_ensureTopic]
    intro answer _
    refine ⟨callDiscipline_keys answer (by simp), ?_⟩
    have hh := hI _ (.request (topicRequest config config.requestTopic) answer) nofun hh
    cases ensured "CreateTopic".toList answer with
    | error e => exact hh
    | ok u =>
      rw [Prog.andThen_ok]
      split
      · exact hh
      simp only [Prog.safe_bind, safe_ensureTopic]
      intro answer' _
      refine ⟨callDiscipline_keys answer' (by simp), ?_⟩
      have hh := hI _ (.request (topicRequest config config.replyTopic) answer') nofun hh
      cases ensured "CreateTopic".toList answer' with
      | error e => exact hh
      | ok u =>
        rw [Prog.andThen_ok, safe_ensureSubscription]
        exact fun answer'' _ => ⟨callDiscipline_keys answer'' (by simp), hI _ _ nofun hh⟩
  · exact hh

theorem safe_ensureStarted (h : List Event) (hh : I h) :
    (ensureStarted config).Safe (fun _ _ => True) (CallDiscipline config payload) (fun h' _ => I h') h := by
  unfold ensureStarted
  simp only [Prog.safe_bind, Prog.safe_emit, Prog.andThen_ok]
  intro started _
  refine ⟨callDiscipline_free nofun nofun nofun, ?_⟩
  have hh := hI _ (.startedLoaded started) nofun hh
  split
  · exact hh
  simp only [Prog.safe_bind, Prog.safe_emit, Prog.andThen_ok]
  intro started' _
  refine ⟨callDiscipline_free nofun nofun nofun, ?_⟩
  have hh := hI _ (.startedLoaded started') nofun hh
  split
  · exact hh
  simp only [Prog.safe_bind, Prog.safe_call]
  intro session _
  refine ⟨callDiscipline_free nofun nofun nofun, ?_⟩
  have hh := hI _ (.acquireSession session) nofun hh
  cases session with
  | error e => exact hh
  | ok u =>
    simp only [Prog.andThen_ok, Prog.safe_bind]
    refine (safe_createResources hI _ hh).mono fun h' r hh => ?_
    cases r with
    | error e => exact hh
    | ok u =>
      rw [Prog.andThen_ok]
      split
      · exact fun _ _ => ⟨callDiscipline_free nofun nofun nofun, hI _ _ nofun hh⟩
      rw [Prog.safe_bind, Prog.safe_call]
      intro result _
      refine ⟨callDiscipline_free nofun nofun nofun, ?_⟩
      have hh := hI _ (.newSession result) nofun hh
      cases result with
      | error e => exact hh
      | ok u => exact fun _ _ => ⟨callDiscipline_free nofun nofun nofun, hI _ _ nofun hh⟩

theorem safe_send {id : Text} (hd : ∀ h, I h → .newCorrelationId id ∈ h) (fuel : Nat) (h : List Event) (hh : I h) :
    (send config payload (requestAttributes config id) fuel).Safe (fun _ _ => True) (CallDiscipline config payload)
      (fun h' _ => I h') h := by
  simp only [send, Prog.safe_bind, Prog.safe_call]
  intro session _
  refine ⟨callDiscipline_free nofun nofun nofun, ?_⟩
  have hh := hI _ (.acquireSession session) nofun hh
  cases session with
  | error e => exact hh
  | ok u =>
    refine Prog.safe_iterate (fun _ => I) (fun _ h hh => ?_) fuel () _ hh
    simp only [Prog.safe_tryCatch, Prog.safe_bind, safe_publish]
    split
    · exact hh
    intro answer _
    refine ⟨callDiscipline_own (hd _ hh) answer, ?_⟩
    have hh := hI _ (.request (publishRequest config config.requestTopic payload (requestAttributes config id)) answer)
      nofun hh
    cases checked ("Publish ".toList ++ config.requestTopic) answer with
    | ok u => exact hh
    | error e =>
      rw [Prog.andThen_error, Prog.orElse_error]
      unfold publishAgain
      split
      · simp only [Prog.safe_bind, Prog.safe_emit, Prog.andThen_ok]
        intro before _
        refine ⟨callDiscipline_free nofun nofun nofun, ?_⟩
        have hh := hI _ (.beforePublishDeadline before) nofun hh
        split <;> exact hh
      · exact hh

end Quiet

/-! ### The whole call -/

/-- What a call has done between its registration and its wait. -/
structure Registered (id : Text) (slot : PendingReplies.SlotRef) (h : List Event) : Prop where
  drew : .newCorrelationId id ∈ h
  registered : .pending (.registered id slot) ∈ h
  unwaited : Unwaited h

theorem registered_cons {id : Text} {slot : PendingReplies.SlotRef} (h : List Event) (e : Event)
    (he : ∀ event, e ≠ .pending event) (hr : Registered id slot h) : Registered id slot (e :: h) where
  drew := List.mem_cons_of_mem _ hr.drew
  registered := List.mem_cons_of_mem _ hr.registered
  unwaited := hr.unwaited.cons fun _ _ => he _

/-- A two-way call that returns has waited for what it returns. -/
def Waited (h : List Event) (r : Except Error Bytes) : Prop :=
  ∀ bytes, r = .ok bytes → ∃ slot, .pending (.waited slot (.returned bytes)) ∈ h

theorem safe_awaitReply {id : Text} (hd : .newCorrelationId id ∈ h) (hu : Unwaited h) (fuel : Nat) :
    (awaitReply config payload id fuel).Safe (fun _ _ => True) (CallDiscipline config payload) Waited h := by
  refine PendingReplies.safe_withTicket_of (P := Registered id) ?_ ?_ ?_ ?_ ?_ ?_ ?_
  · exact fun _ => callDiscipline_free nofun nofun nofun
  · exact fun _ => callDiscipline_free nofun nofun nofun
  · intro slot
    have hreg : Registered id slot (.pending (.registered id slot) :: h) :=
      ⟨List.mem_cons_of_mem _ hd, List.mem_cons_self, hu.cons nofun⟩
    exact safe_send registered_cons (fun _ hr => hr.drew) fuel _ hreg
  · refine fun slot h result hreg => ⟨nofun, fun slot' r' heq => ?_, nofun⟩
    cases heq
    exact ⟨id, hreg.drew, hreg.registered, hreg.unwaited⟩
  · exact fun _ => callDiscipline_free nofun nofun nofun
  · exact fun _ _ _ heq => by cases heq
  · intro slot h result bytes hreg hw bytes' hb
    cases hb
    rw [PendingReplies.waitedOr_eq_ok hw]
    exact ⟨slot, by simp⟩

/-- **What a call keeps to**, and what a two-way call has done when it returns. -/
theorem safe_callClient (data : Option Bytes) (size fuel : Nat) :
    (callClient config data size fuel).Safe (fun _ _ => True) (CallDiscipline config (payloadOf data size))
      (fun h r => config.oneWay = false → Waited h r) [] := by
  unfold callClient
  split
  · exact fun _ _ hr => nomatch hr
  split
  · exact fun _ _ hr => nomatch hr
  simp only [Prog.safe_bind]
  refine (safe_ensureStarted (I := Unwaited) (fun _ _ he hu => hu.cons fun _ _ => he _) [] nofun).mono
    fun h r hu => ?_
  cases r with
  | error e => exact fun _ _ hr => nomatch hr
  | ok u =>
    simp only [Prog.andThen_ok, Prog.safe_bind, Prog.safe_emit]
    intro id _
    refine ⟨callDiscipline_free nofun nofun nofun, ?_⟩
    have hu := hu.cons (e := .newCorrelationId id) nofun
    split
    · rename_i hway
      rw [Prog.safe_bind]
      refine (safe_send (I := fun h => .newCorrelationId id ∈ h) (fun _ _ _ hm => List.mem_cons_of_mem _ hm)
        (fun _ hm => hm) fuel _ List.mem_cons_self).mono fun h' r _ => ?_
      cases r with
      | error e => exact fun hw => absurd hway (by rw [hw]; exact Bool.false_ne_true)
      | ok u => exact fun hw => absurd hway (by rw [hw]; exact Bool.false_ne_true)
    · exact (safe_awaitReply List.mem_cons_self hu fuel).mono fun _ _ hw _ => hw

end Calls

/-! ## The dispatcher -/

section Dispatcher

variable {parse : Text → Option Json} {config : PubSubConfig}

theorem dispatchDiscipline_free {h : List Event} {e : Event} (hr : ∀ sent answer, e ≠ .request sent answer)
    (hp : ∀ event, e = .pending event → ∃ error, event = .failedAll error) : DispatchDiscipline parse config h e where
  completed _ _ _ heq := by obtain ⟨_, h⟩ := hp _ heq; cases h
  unpublished _ _ _ _ _ := hr _ _
  unregistered _ _ heq := by obtain ⟨_, h⟩ := hp _ heq; cases h
  unwaited _ _ heq := by obtain ⟨_, h⟩ := hp _ heq; cases h

theorem dispatchDiscipline_keys {h : List Event} {sent : HttpRequest} (answer : Except Error HttpResult)
    (hk : sent.keys ≠ ["messages".toList]) : DispatchDiscipline parse config h (.request sent answer) where
  completed _ _ _ heq := nomatch heq
  unpublished _ _ _ _ _ heq := hk (by cases heq; rfl)
  unregistered _ _ heq := nomatch heq
  unwaited _ _ heq := nomatch heq

/-- `batch` came of a pull of the history. -/
def PulledBatch (parse : Text → Option Json) (config : PubSubConfig) (batch : List PulledMessage) (h : List Event) :
    Prop :=
  batch = [] ∨ ∃ answer, .request (pullRequest config config.replySubscription config.maxMessages) answer ∈ h ∧
    pulled parse config.replySubscription answer = .ok batch

theorem PulledBatch.cons {batch : List PulledMessage} {h : List Event} (hb : PulledBatch parse config batch h)
    (e : Event) : PulledBatch parse config batch (e :: h) :=
  hb.imp_right fun ⟨answer, hm, hp⟩ => ⟨answer, List.mem_cons_of_mem _ hm, hp⟩

theorem safe_pullFailed (e : Error) (h : List Event) :
    (pullFailed e).Safe (fun _ _ => True) (DispatchDiscipline parse config)
      (fun h' r => ∀ batch, r = .ok batch → PulledBatch parse config batch h') h := by
  have hnone : ∀ h' batch, (.ok [] : Except Error (List PulledMessage)) = .ok batch →
      PulledBatch parse config batch h' := fun _ batch hb => Or.inl (Except.ok.inj hb).symm
  unfold pullFailed failAll
  split
  · split
    · exact fun _ _ => ⟨dispatchDiscipline_free nofun fun _ heq => ⟨_, (Event.pending.inj heq).symm⟩, hnone _⟩
    · exact hnone h
  · exact fun _ _ => ⟨dispatchDiscipline_free nofun fun _ heq => ⟨_, (Event.pending.inj heq).symm⟩, hnone _⟩
  · exact nofun

theorem safe_acknowledgeBatch {batch : List PulledMessage} {h : List Event} (hb : PulledBatch parse config batch h) :
    (acknowledgeBatch config batch).Safe (fun _ _ => True) (DispatchDiscipline parse config)
      (fun h' _ => PulledBatch parse config batch h') h := by
  unfold acknowledgeBatch
  rw [Prog.safe_bind, Prog.safe_attempt]
  cases (batch.map PulledMessage.ackId).filter (!·.isEmpty) with
  | nil => exact hb
  | cons ackId ackIds =>
    rw [safe_acknowledge]
    intro answer _
    refine ⟨dispatchDiscipline_keys answer (by simp), ?_⟩
    have hb := hb.cons (.request (acknowledgeRequest config config.replySubscription (ackId :: ackIds)) answer)
    cases checked ("Acknowledge ".toList ++ config.replySubscription) answer with
    | ok u => exact hb
    | error e =>
      rw [Prog.attempted_error]
      split <;> exact hb

theorem keeps_completeBatch {batch : List PulledMessage} {h : List Event} (hb : PulledBatch parse config batch h) :
    Keeps (fun _ _ => True) (DispatchDiscipline parse config) (completeBatch batch) h := by
  refine Prog.safe_forEach (PulledBatch parse config batch) (fun _ _ => trivial) batch (fun message hm h hb => ?_) h hb
  unfold completeReply complete
  split
  · rename_i id hid
    simp only [Prog.safe_bind, Prog.safe_emit, Prog.andThen_ok]
    intro found _
    refine ⟨⟨fun id' bytes found' heq => ?_, nofun, nofun, nofun⟩, hb.cons _⟩
    cases heq
    rcases hb with rfl | ⟨answer, ha, hp⟩
    · cases hm
    · exact ⟨answer, batch, message, ha, hp, hm, hid, rfl⟩
  · exact hb

theorem keeps_dispatchBatch (h : List Event) :
    Keeps (fun _ _ => True) (DispatchDiscipline parse config) (dispatchBatch parse config) h := by
  unfold dispatchBatch
  refine Prog.Safe.keeps_bind (Q := fun h' r => ∀ batch, r = .ok batch → PulledBatch parse config batch h') ?_
    fun batch h' hb => ?_
  · rw [Prog.safe_tryCatch, safe_pull]
    intro answer _
    refine ⟨dispatchDiscipline_keys answer (by simp), ?_⟩
    cases hp : pulled parse config.replySubscription answer with
    | ok batch =>
      intro batch' hb
      cases hb
      exact Or.inr ⟨answer, List.mem_cons_self, hp⟩
    | error e => exact safe_pullFailed e _
  · exact (safe_acknowledgeBatch (hb batch rfl)).keeps_bind fun _ _ hb => keeps_completeBatch hb

/-- **What the dispatcher keeps to.** -/
theorem keeps_dispatchReplies (fuel : Nat) :
    Keeps (fun _ _ => True) (DispatchDiscipline parse config) (dispatchReplies parse config fuel) [] := by
  refine Prog.keeps_iterate (fun _ h => ?_) fuel () []
  refine Prog.keeps_emit_bind (fun _ => dispatchDiscipline_free nofun nofun) fun stopping => ?_
  split
  · trivial
  refine Prog.keeps_emit_bind (fun _ => dispatchDiscipline_free nofun nofun) fun found => ?_
  split
  · trivial
  exact (keeps_dispatchBatch _).keeps_bind fun _ _ _ => trivial

end Dispatcher

end PubSub
end Graftcode
