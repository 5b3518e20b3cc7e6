import Graftcode.SqsClient
/-!
# SqsCalls — what the threads of an SQS client keep to

A call sends nothing but its own payload, under an id it drew; it waits once, on a slot it registered under such an id,
and finishes no id.  The dispatcher finishes an id only for a reply it received with that id, right after it deleted it or
failed to, and fails every call only when a receive failed.  All of this holds whatever the SDK answers.
-/
namespace Graftcode
namespace Sqs

open Prog (Keeps)
open PendingReplies (finishFor CallsOnce Quiet Unwaited callsOnce_quiet)

/-- The call drew `id`. -/
def Drew (id : Text) (h : List ClientEvent) : Prop :=
  ∃ first second, .newCorrelationId first second ∈ h ∧ id = newCorrelationId first second

theorem Drew.cons {id : Text} {h : List ClientEvent} (hd : Drew id h) (e : ClientEvent) : Drew id (e :: h) := by
  obtain ⟨first, second, hm, hid⟩ := hd
  exact ⟨first, second, List.mem_cons_of_mem _ hm, hid⟩

/-- A request is the call's own, for an id it drew. -/
def SendsOwn (sdk : Sdk) (config : SqsConfig) (data : Option Bytes) (size : Nat) (h : List ClientEvent)
    (e : ClientEvent) : Prop :=
  ∀ sent outcome, e = .sendMessage sent outcome → ∃ id body, Drew id h ∧ encodePayload sdk data size = .ok body ∧
    sent = callRequest config id body

structure CallDiscipline (sdk : Sdk) (config : SqsConfig) (data : Option Bytes) (size : Nat) (h : List ClientEvent)
    (e : ClientEvent) : Prop extends CallsOnce ClientEvent.pending Drew h e where
  sends : SendsOwn sdk config data size h e

/-- What the dispatcher does to the map for a reply, from what its deletion came to. -/
def finishing (sdk : Sdk) (message : Message) (outcome : Except AwsError Unit) (found : Bool) : PendingReplies.Event :=
  let correlationId := getStringAttribute message correlationIdAttribute
  match outcome with
  | .error error => .failed correlationId (awsError "DeleteMessage".toList error) found
  | .ok ()       => match decodePayload sdk message.body with
    | .ok payload => .completed correlationId payload found
    | .error what => .failed correlationId what found

/-- A reply of an earlier receive, whose deletion has just come to `outcome`. -/
structure Handled (config : SqsConfig) (message : Message) (outcome : Except AwsError Unit) (h : List ClientEvent) :
    Prop where
  deleted : ∃ rest, h = .deleteMessage (cString config.replyQueueUrl) message.receiptHandle (.ok outcome) :: rest
  received : ∃ messages, .receiveMessage (replyReceive config) (.ok (.ok messages)) ∈ h ∧ message ∈ messages

/-- Every call fails with a receive that has just failed. -/
def Sweeps (config : SqsConfig) (h : List ClientEvent) (event : PendingReplies.Event) : Prop :=
  ∃ error rest, h = .receiveMessage (replyReceive config) (.ok (.error error)) :: rest ∧
    event = .failedAll (awsError "ReceiveMessage".toList error)

structure DispatchDiscipline (sdk : Sdk) (config : SqsConfig) (h : List ClientEvent) (e : ClientEvent) : Prop where
  finishes : ∀ event, e = .pending event → Sweeps config h event ∨
    ∃ message outcome found, Handled config message outcome h ∧ event = finishing sdk message outcome found
  sends : ∀ sent outcome, e ≠ .sendMessage sent outcome

/-! ## The calls -/

section Calls

variable {sdk : Sdk} {config : SqsConfig} {data : Option Bytes} {size : Nat} {h : List ClientEvent}

theorem pending_injective : Function.Injective ClientEvent.pending := fun _ _ h => ClientEvent.pending.inj h

theorem sendsOwn_of_ne {e : ClientEvent} (he : ∀ sent outcome, e ≠ .sendMessage sent outcome) :
    SendsOwn sdk config data size h e := fun sent outcome heq => absurd heq (he sent outcome)

theorem quiet_sendRequest (id : Text) (h : List ClientEvent) :
    (sendRequest sdk config data size id).Safe (fun _ _ => True) (Quiet ClientEvent.pending) (fun _ _ => True) h := by
  unfold sendRequest
  simp only [Prog.safe_bind, Prog.safe_ofExcept]
  cases encodePayload sdk data size with
  | error what => trivial
  | ok body =>
    simp only [Except.mapError, Prog.andThen_ok, Prog.safe_bind, Prog.safe_call]
    refine fun outcome _ => ⟨by simp [Quiet], ?_⟩
    cases outcome with
    | error e => trivial
    | ok r =>
      rw [Prog.andThen_ok, Prog.safe_ofExcept]
      trivial

theorem keeps_sendRequest {id : Text} (hd : Drew id h) :
    Keeps (fun _ _ => True) (SendsOwn sdk config data size) (sendRequest sdk config data size id) h := by
  unfold sendRequest
  simp only [Keeps, Prog.safe_bind, Prog.safe_ofExcept]
  cases hbody : encodePayload sdk data size with
  | error what => trivial
  | ok body =>
    simp only [Except.mapError, Prog.andThen_ok, Prog.safe_bind, Prog.safe_call]
    refine fun outcome _ => ⟨fun sent outcome' heq => ?_, ?_⟩
    · cases heq
      exact ⟨id, body, hd, hbody, rfl⟩
    cases outcome with
    | error e => trivial
    | ok r =>
      rw [Prog.andThen_ok, Prog.safe_ofExcept]
      trivial

theorem quiet_ensureDispatcher (h : List ClientEvent) :
    ensureDispatcher.Safe (fun _ _ => True) (Quiet ClientEvent.pending) (fun _ _ => True) h := by
  refine Prog.keeps_emit_bind (fun _ => by simp [Quiet]) fun started => ?_
  split
  · trivial
  refine Prog.keeps_emit_bind (fun _ => by simp [Quiet]) fun started' => ?_
  split
  · trivial
  exact Prog.keeps_call_bind (fun _ => by simp [Quiet]) fun _ => Prog.keeps_emit fun _ => by simp [Quiet]

theorem keeps_ensureDispatcher : Keeps (fun _ _ => True) (SendsOwn sdk config data size) ensureDispatcher h := by
  refine Prog.keeps_emit_bind (fun _ => sendsOwn_of_ne (by simp)) fun started => ?_
  split
  · trivial
  refine Prog.keeps_emit_bind (fun _ => sendsOwn_of_ne (by simp)) fun started' => ?_
  split
  · trivial
  exact Prog.keeps_call_bind (fun _ => sendsOwn_of_ne (by simp)) fun _ =>
    Prog.keeps_emit fun _ => sendsOwn_of_ne (by simp)

/-- A two-way call that returns has waited for what it returns. -/
def Waited (h : List ClientEvent) (r : Except Exn Bytes) : Prop :=
  ∀ bytes, r = .ok bytes → ∃ slot, .pending (.waited slot (.returned bytes)) ∈ h

/-- What the call knows before it registers. -/
def Fresh (id : Text) (h : List ClientEvent) : Prop := Drew id h ∧ Unwaited ClientEvent.pending h

theorem Fresh.cons {id : Text} {e : ClientEvent} (he : Quiet ClientEvent.pending h e) (hf : Fresh id h) :
    Fresh id (e :: h) := ⟨hf.1.cons e, hf.2.cons fun _ _ => he _⟩

theorem calls_callClient :
    (callClient sdk config data size).Safe (fun _ _ => True) (CallsOnce ClientEvent.pending Drew)
      (fun h r => config.oneWay = false → Waited h r) [] := by
  unfold callClient
  split
  · exact fun _ _ hr => nomatch hr
  simp only [Prog.safe_bind, Prog.safe_emit, Prog.andThen_ok]
  rintro ⟨first, second⟩ -
  refine ⟨callsOnce_quiet (by simp [Quiet]), ?_⟩
  have hfresh : Fresh (newCorrelationId first second) [.newCorrelationId first second] :=
    ⟨⟨first, second, List.mem_singleton.2 rfl, rfl⟩, fun slot r hm => by simp at hm⟩
  split
  · rename_i hway
    have hnot : config.oneWay ≠ false := by
      rw [hway]
      decide
    rw [Prog.safe_bind]
    refine (PendingReplies.safe_quiet (fun _ _ => Fresh.cons) (quiet_sendRequest _ _) hfresh).mono fun h r _ => ?_
    cases r with
    | error e => exact fun hw => absurd hw hnot
    | ok u => exact fun hw => absurd hw hnot
  · rw [Prog.safe_bind]
    refine (PendingReplies.safe_quiet (fun _ _ => Fresh.cons) (quiet_ensureDispatcher _) hfresh).mono fun h r hf => ?_
    cases r with
    | error e => exact fun _ _ hr => nomatch hr
    | ok u =>
      have hcall : (awaitReply sdk config data size (newCorrelationId first second)).Safe (fun _ _ => True)
          (CallsOnce ClientEvent.pending Drew) (PendingReplies.Returned ClientEvent.pending
            (waited config (newCorrelationId first second))) h :=
        PendingReplies.safe_withTicket pending_injective hf.1 hf.2 (quiet_sendRequest _)
      refine hcall.mono fun h r hr _ bytes hb => ?_
      obtain ⟨slot, result, hm, hw⟩ := hr bytes hb
      rw [PendingReplies.waitedOr_eq_ok hw] at hm
      exact ⟨slot, hm⟩

theorem sends_callClient :
    Keeps (fun _ _ => True) (SendsOwn sdk config data size) (callClient sdk config data size) [] := by
  unfold callClient
  split
  · trivial
  intro words _
  refine ⟨sendsOwn_of_ne (by simp), ?_⟩
  have hdrew : ∀ h, Drew (newCorrelationId words.1 words.2) (h ++ [.newCorrelationId words.1 words.2]) :=
    fun h => ⟨words.1, words.2, by simp, rfl⟩
  split
  · exact (keeps_sendRequest (hdrew [])).keeps_bind fun _ _ _ => trivial
  · have hkeep : ∀ h e, Drew (newCorrelationId words.1 words.2) h → Drew (newCorrelationId words.1 words.2) (e :: h) :=
      fun h e hd => hd.cons e
    refine (keeps_ensureDispatcher.persist hkeep (hdrew [])).keeps_bind fun _ h hd => ?_
    exact PendingReplies.keeps_withTicket (fun _ _ _ => sendsOwn_of_ne (by simp)) fun slot => keeps_sendRequest (hd.1.cons _)

/-- **What a call keeps to**, and what a two-way call has done when it returns. -/
theorem safe_callClient :
    (callClient sdk config data size).Safe (fun _ _ => True) (CallDiscipline sdk config data size)
      (fun h r => config.oneWay = false → Waited h r) [] := by
  refine ((calls_callClient.and sends_callClient).weaken (fun _ _ hr => hr) fun _ _ hd => ?_).mono fun _ _ hq => hq.1
  exact { hd.1 with sends := hd.2 }

end Calls

/-! ## The dispatcher -/

section Dispatcher

variable {sdk : Sdk} {config : SqsConfig}

/-- One reply is one deletion and one step of the map. -/
theorem dispatchReply_eq (message : Message) : dispatchReply sdk config message =
    (Prog.call (ClientEvent.deleteMessage (cString config.replyQueueUrl) message.receiptHandle)).bind fun outcome =>
      (Prog.emit fun found => .pending (finishing sdk message outcome found)).bind fun _ => Prog.pure () := by
  unfold dispatchReply handOver complete fail finishing
  change Prog.bind _ _ = _
  congr 1
  funext outcome
  cases outcome with
  | error error => rfl
  | ok u =>
    cases decodePayload sdk message.body with
    | ok payload => rfl
    | error what => rfl

theorem dispatchDiscipline_free {h : List ClientEvent} {e : ClientEvent} (hs : ∀ sent outcome, e ≠ .sendMessage sent outcome)
    (hp : ∀ event, e ≠ .pending event) : DispatchDiscipline sdk config h e where
  finishes _ heq := absurd heq (hp _)
  sends := hs

theorem keeps_dispatchMessages {messages : List Message} {h : List ClientEvent}
    (hr : .receiveMessage (replyReceive config) (.ok (.ok messages)) ∈ h) :
    Keeps (fun _ _ => True) (DispatchDiscipline sdk config) (dispatchMessages sdk config messages) h := by
  refine Prog.safe_forEach (fun h => .receiveMessage (replyReceive config) (.ok (.ok messages)) ∈ h) (fun _ _ => trivial)
    messages (fun message hm h hr => ?_) h hr
  simp only [dispatchReply_eq, Prog.safe_bind, Prog.safe_bind', Prog.safe_call]
  intro result _
  refine ⟨dispatchDiscipline_free (by simp) (by simp), ?_⟩
  cases result with
  | error e => trivial
  | ok outcome =>
    have hr' := List.mem_cons_of_mem
      (ClientEvent.deleteMessage (cString config.replyQueueUrl) message.receiptHandle (.ok outcome)) hr
    simp only [Prog.andThen_ok, Prog.safe_bind', Prog.safe_emit]
    intro found _
    refine ⟨⟨fun event heq => Or.inr ⟨message, outcome, found, ⟨⟨h, rfl⟩, messages, hr', hm⟩, ?_⟩, nofun⟩, ?_⟩
    · cases heq
      rfl
    · exact List.mem_cons_of_mem _ hr'

/-- What one reply of a batch leaves in the trace. -/
def replyEvents (sdk : Sdk) (config : SqsConfig) (message : Message) (answer : Except AwsError Unit × Bool) :
    List ClientEvent :=
  [.deleteMessage (cString config.replyQueueUrl) message.receiptHandle (.ok answer.1),
    .pending (finishing sdk message answer.1 answer.2)]

theorem dispatchReply_runs {message : Message} {u : List ClientEvent} :
    (dispatchReply sdk config message).Runs u (.done ()) ↔ ∃ answer, u = replyEvents sdk config message answer := by
  rw [dispatchReply_eq]
  constructor
  · intro h
    obtain ⟨u₁, u₂, outcome, rfl, hdelete, hrest⟩ := Prog.runs_bind_done.1 h
    obtain rfl := Prog.runs_call_done.1 hdelete
    obtain ⟨u₃, u₄, found, rfl, hemit, rfl, -⟩ := Prog.runs_bind_done.1 hrest
    obtain rfl := Prog.runs_emit_done.1 hemit
    exact ⟨(outcome, found), rfl⟩
  · rintro ⟨answer, rfl⟩
    exact Prog.runs_ask.2 ⟨.ok answer.1, rfl, Prog.runs_ask.2 ⟨answer.2, rfl, rfl, rfl⟩⟩

/-- **A batch is handled reply by reply**: each one is deleted and then finishes its own id, before the next one, whatever
was wrong with those before it. -/
theorem dispatchMessages_runs_iff (messages : List Message) (u : List ClientEvent) :
    (dispatchMessages sdk config messages).Runs u (.done ()) ↔
      ∃ answers : List (Except AwsError Unit × Bool), answers.length = messages.length ∧
        u = (List.zipWith (replyEvents sdk config) messages answers).flatten :=
  Prog.runs_forEach_done fun _ _ => dispatchReply_runs

/-- **What the dispatcher keeps to.** -/
theorem keeps_dispatchReplies (fuel : Nat) :
    Keeps (fun _ _ => True) (DispatchDiscipline sdk config) (dispatchReplies sdk config fuel) [] := by
  refine Prog.keeps_iterate (fun _ h => ?_) fuel () []
  refine Prog.keeps_emit_bind (fun _ => dispatchDiscipline_free (by simp) (by simp)) fun stopping => ?_
  split
  · trivial
  refine Prog.keeps_emit_bind (fun _ => dispatchDiscipline_free (by simp) (by simp)) fun found => ?_
  split
  · trivial
  refine Prog.keeps_call_bind (fun _ => dispatchDiscipline_free (by simp) (by simp)) fun outcome => ?_
  cases outcome with
  | error error =>
    intro _ _
    refine ⟨⟨fun event heq => Or.inl ⟨error, _, rfl, ?_⟩, nofun⟩, trivial⟩
    cases heq
    rfl
  | ok messages => exact (keeps_dispatchMessages List.mem_cons_self).keeps_bind fun _ _ _ => trivial

end Dispatcher

end Sqs
end Graftcode
