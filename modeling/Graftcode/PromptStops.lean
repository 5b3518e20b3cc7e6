import Graftcode.Pace
import Graftcode.SqsPubSubLifecycle
import Mathlib.Algebra.Order.Group.Nat
import Mathlib.Algebra.Order.Monoid.Prod
/-!
# PromptStops — what a gateway still does after it was told to stop

A stop sets the flag and waits for the run to end.  The run looks at the flag before every receive and before every
request, so how long the wait takes is bounded by what it does between two looks: `Pace.Costs` of its program.  What is
counted is what the run asks of its broker and of the handler; looks at the flag and sleeping are not.
-/
namespace Graftcode

open Prog (emit call ofExcept attempt iterate forEach)
open Lifecycle (Active bodyEvents Steady)

namespace Lifecycle

variable {ε Ev Config : Type}

/-- A run that a stop finds active has at most `operations` left, and at most `busy` events that are work. -/
def StopsWithin (operates works : Ev → Bool) (operations busy : Nat) (t : List (Nat × Event Ev Config)) : Prop :=
  ∀ before k after n, t = before ++ (k, .requestStop) :: after → Active (historiesOf before n) →
    (bodyEvents (ofActor n after)).countP operates ≤ operations ∧ (bodyEvents (ofActor n after)).countP works ≤ busy

/-- A read that does not find the flag set lets the run go on. -/
def pace (reads : Ev → Option Bool) (operates works : Ev → Bool) : Pace Ev (Nat × Nat) :=
  Pace.counting (fun event => reads event == some false) operates works

variable {reads : Ev → Option Bool} {operates works : Ev → Bool}

variable {N c : Nat × Nat} {run : Config → Prog ε Ev Unit} {refused : ε}

theorem costs_start (hc : c ≤ N)
    (hrun : ∀ config, (pace reads operates works).Costs N (run config) 0 c) :
    ((pace reads operates works).through Event.body?).Costs N (start run) 0 c := by
  unfold start
  refine Pace.Costs.bind zero_le (fun entered => ?_) (Pace.costs_unseen (fun _ => rfl) zero_le)
  cases entered with
  | false => exact Pace.costs_pure () zero_le
  | true =>
    refine Pace.Costs.bind zero_le (fun config => ?_) (Pace.costs_unseen (fun _ => rfl) zero_le)
    exact Pace.Costs.bind le_rfl (fun _ => Pace.costs_unseen (fun _ => rfl) hc)
      (Pace.costs_under_through (f := Event.body?) (fun _ => rfl) (hrun config))

/-- What a call of the lifecycle spends is what the run does. -/
theorem costs_program (hc : c ≤ N)
    (hrun : ∀ config, (pace reads operates works).Costs N (run config) 0 c) :
    ∀ op : Operation ε Config, ((pace reads operates works).through Event.body?).Costs N (op.program run refused) 0 c
  | .start               => costs_start hc hrun
  | .stop                =>
    Pace.Costs.bind zero_le (fun _ => (Pace.costs_unseen (fun _ => rfl) zero_le).trans zero_le)
      (Pace.costs_unseen (fun _ => rfl) zero_le)
  | .configure validated => by
    refine Pace.Costs.bind zero_le (fun config => ?_) (Pace.costs_ofExcept le_rfl)
    refine Pace.Costs.bind zero_le (fun accepted => ?_) (Pace.costs_unseen (fun _ => rfl) zero_le)
    cases accepted with
    | true => exact Pace.costs_pure () zero_le
    | false => exact Pace.costs_throw refused zero_le

section Runs

variable [DecidableEq Config] {B : List Ev → Ev → Prop} {op : Nat → Operation ε Config} {config : Config}
  {t : List (Nat × Event Ev Config)} {s : State Config}

/-- After a stop a run that was active then reads the flag set, for as long as it is. -/
theorem reads_stop (hsafe : ∀ config, (run config).Safe (Steady reads) B (fun _ r => r = .ok ()) [])
    (hx : Execution (Lifecycle.step reads) (fun n => (op n).program run refused) { config } t s)
    {before after : List (Nat × Event Ev Config)} {k n : Nat} (ht : t = before ++ (k, .requestStop) :: after)
    (hactive : Active (historiesOf before n)) {event : Ev} (hm : (n, .body event) ∈ after) :
    reads event ≠ some false := by
  obtain ⟨mid, rest, rfl⟩ := List.append_of_mem hm
  have hsplit : t = (before ++ (k, .requestStop) :: mid) ++ (n, .body event) :: rest := by rw [ht]; simp
  have hthen : Discipline B (historiesOf (before ++ (k, .requestStop) :: mid) n) (.body event) :=
    discipline_at (admits_of_execution hsafe hx n) hsplit
  rw [hsplit] at hx
  obtain ⟨s₁, hx₁, hr⟩ := hx.before
  have hstop : s₁.stopRequested = true := (sound_of_execution hsafe hx₁).kept before k mid n rfl hactive hthen.1
  rw [replay, Option.bind_eq_some_iff] at hr
  obtain ⟨s₂, hs, -⟩ := hr
  simp only [Lifecycle.step, hstop, Bool.not_true, Option.ite_none_left_eq_some] at hs
  exact hs.1

/-- **A stop takes effect within the bound of the run's program.** -/
theorem stopsWithin_of_execution {operations busy : Nat} (hc : c ≤ (operations, busy))
    (hsafe : ∀ config, (run config).Safe (Steady reads) B (fun _ r => r = .ok ()) [])
    (hrun : ∀ config, (pace reads operates works).Costs (operations, busy) (run config) 0 c)
    (hx : Execution (Lifecycle.step reads) (fun n => (op n).program run refused) { config } t s) :
    StopsWithin operates works operations busy t := by
  intro before k after n ht hactive
  obtain ⟨o, ho⟩ := hx.runs n
  have hnogo : ∀ e ∈ ofActor n after, ((pace reads operates works).through Event.body?).go e = false := by
    intro e he
    cases e with
    | body event =>
      have hread := reads_stop hsafe hx ht hactive (mem_ofActor.1 he)
      simpa [pace, Pace.counting, Event.body?] using hread
    | _ => rfl
  rw [ht, List.append_cons, ofActor_append] at ho
  have hsum := (costs_program hc hrun (op n)).sum_le ho hnogo
  rw [Pace.sum_through, pace, Pace.sum_counting] at hsum
  exact hsum

end Runs

end Lifecycle

namespace Sqs

/-- The run asks something of the SDK's client, or hands a message to the handler. -/
def RunEvent.operates : RunEvent → Bool
  | .server (.createClient _)       => true
  | .server (.receiveMessage _ _)   => true
  | .server (.processMessage _ _ _) => true
  | .server (.sendMessage _ _)      => true
  | .server (.deleteMessage _ _ _)  => true
  | _                               => false

/-- The run asks its queue for a message, or hands one to the handler. -/
def RunEvent.works : RunEvent → Bool
  | .server (.receiveMessage _ _)   => true
  | .server (.processMessage _ _ _) => true
  | _                               => false

abbrev runPace : Pace RunEvent (Nat × Nat) := Lifecycle.pace RunEvent.reads RunEvent.operates RunEvent.works

/-- The pace of the receive loop. -/
def pace : Pace Event (Nat × Nat) := runPace.comap RunEvent.server

theorem costs_processMessage (payload : Bytes) : pace.Costs (3, 1) (processMessage payload) 0 (1, 1) :=
  Pace.Costs.bind le_rfl (fun _ => Pace.costs_ofExcept le_rfl)
    (Pace.costs_emit (fun _ => rfl) (fun _ => le_rfl) (by decide))

theorem costs_sendReply (sdk : Sdk) (config : SqsConfig) (replyQueueUrl correlationId : Text) (response : Bytes) :
    pace.Costs (3, 1) (sendReply sdk config replyQueueUrl correlationId response) (1, 1) (2, 1) := by
  unfold sendReply
  split
  · exact Pace.costs_pure true (by decide)
  · refine Pace.Costs.bind (by decide) (fun body => ?_) (Pace.costs_ofExcept le_rfl)
    refine Pace.Costs.bind (d := (1, 1)) (by decide) (fun id => ?_)
      (Pace.costs_emit (fun _ => rfl) (fun _ => le_rfl) (by decide))
    exact Pace.Costs.bind le_rfl (fun outcome => Pace.costs_pure _ le_rfl)
      (Pace.costs_call (fun _ => rfl) (fun _ => le_rfl) (by decide))

theorem costs_handleMessage (sdk : Sdk) (config : SqsConfig) (message : Message) :
    pace.Costs (3, 1) (handleMessage sdk config message) 0 (3, 1) := by
  unfold handleMessage
  dsimp only
  split
  · exact Pace.costs_pure () zero_le
  refine Pace.Costs.bind zero_le (fun request => ?_) (Pace.costs_ofExcept le_rfl)
  refine Pace.Costs.bind (by decide) (fun result => ?_) (costs_processMessage request)
  cases result.1 with
  | false => exact Pace.costs_pure () (by decide)
  | true =>
    refine Pace.Costs.bind (by decide) (fun sent => ?_) (costs_sendReply sdk config _ _ result.2)
    cases sent with
    | false => exact Pace.costs_pure () (by decide)
    | true =>
      exact Pace.Costs.bind le_rfl (fun outcome => Pace.costs_pure () le_rfl)
        (Pace.costs_call (fun _ => rfl) (fun _ => le_rfl) (by decide))

theorem costs_handleMessages (sdk : Sdk) (config : SqsConfig) (messages : List Message) :
    pace.Costs (3, 1) (handleMessages sdk config messages) (3, 1) (3, 1) := by
  apply Pace.costs_forEach zero_le le_rfl le_rfl
  · intro message stop hgo
    cases stop with
    | true => cases hgo
    | false =>
      exact Pace.Costs.bind le_rfl (fun _ => Pace.costs_pure true le_rfl)
        (costs_handleMessage sdk config message).attempt
  · intro message stop hgo
    cases stop with
    | true => exact ⟨le_rfl, rfl⟩
    | false => cases hgo

theorem costs_receive (sdk : Sdk) (config : SqsConfig) (fuel : Nat) :
    pace.Costs (3, 1) (receive sdk config fuel) (3, 1) (3, 1) := by
  apply Pace.costs_while zero_le le_rfl le_rfl
  · intro _ stop hgo
    cases stop with
    | true => cases hgo
    | false =>
      refine Pace.Costs.bind (d := (1, 1)) (by decide) (fun outcome => ?_)
        (Pace.costs_call (fun _ => rfl) (fun _ => le_rfl) (by decide))
      cases outcome with
      | error text => exact Pace.costs_pure _ (by decide)
      | ok messages =>
        exact Pace.Costs.bind le_rfl (fun _ => Pace.costs_pure _ le_rfl)
          ((costs_handleMessages sdk config messages).of_le (by decide))
  · intro _ stop hgo
    cases stop with
    | true => exact ⟨le_rfl, (), rfl⟩
    | false => cases hgo

theorem costs_run (sdk : Sdk) (fuel : Nat) (settings : Settings) :
    runPace.Costs (3, 1) (run sdk fuel settings) 0 (3, 1) := by
  apply Pace.Costs.tryCatch le_rfl fun _ => Pace.costs_pure () le_rfl
  refine Pace.Costs.bind zero_le (fun _ => ?_) (Pace.costs_ofExcept le_rfl)
  cases settings.2 with
  | false => exact Pace.costs_throw notConfigured zero_le
  | true =>
    refine Pace.Costs.bind (d := (1, 0)) (by decide) (fun _ => ?_)
      (Pace.costs_under (Pace.costs_call (fun _ => rfl) (fun _ => le_rfl) (by decide)))
    refine Pace.costs_look zero_le ?_ ?_
    · intro stop _
      exact Pace.costs_under ((costs_receive sdk settings.1 fuel).of_le zero_le)
    · intro stop hgo
      cases stop with
      | true => exact ⟨by decide, Pace.costs_under ((costs_receive sdk settings.1 fuel).of_le (by decide))⟩
      | false => cases hgo

end Sqs

namespace PubSub

/-- The body is that of a pull. -/
def isPull (sent : HttpRequest) : Bool := sent.keys == ["maxMessages".toList, "returnImmediately".toList]

/-- The run opens a session or sends a request over it, or hands a message to the handler. -/
def RunEvent.operates : RunEvent → Bool
  | .server (.newSession _)         => true
  | .server (.request _ _)          => true
  | .server (.processMessage _ _ _) => true
  | _                               => false

/-- The run asks its subscription for messages, or hands one to the handler. -/
def RunEvent.works : RunEvent → Bool
  | .server (.request sent _)       => isPull sent
  | .server (.processMessage _ _ _) => true
  | _                               => false

abbrev runPace : Pace RunEvent (Nat × Nat) := Lifecycle.pace RunEvent.reads RunEvent.operates RunEvent.works

/-- The pace of the receive loop. -/
def pace : Pace Event (Nat × Nat) := runPace.comap RunEvent.server

/-- A request that is not a pull. -/
theorem costs_request {sent : HttpRequest} (hpull : isPull sent = false) {a b : Nat} (ha : a < 3) (hb : b ≤ 1) :
    pace.Costs (3, 1) (emit (Event.request sent) : Prog Error _ _) (a, b) (a + 1, b) := by
  apply Pace.costs_emit (fun _ => rfl)
  · intro answer
    have hcost : pace.cost (.request sent answer) = (1, 0) := by
      simp [pace, Pace.comap, Lifecycle.pace, Pace.counting, RunEvent.operates, RunEvent.works, hpull]
    rw [hcost]
    exact ⟨(Nat.add_comm _ _).le, (Nat.zero_add _).le⟩
  · exact ⟨ha, hb⟩

theorem costs_processMessage (payload : Bytes) : pace.Costs (3, 1) (processMessage payload) 0 (1, 1) :=
  Pace.Costs.bind le_rfl (fun _ => Pace.costs_ofExcept le_rfl)
    (Pace.costs_emit (fun _ => rfl) (fun _ => le_rfl) (by decide))

theorem costs_publishReply (config : PubSubConfig) (replyTo correlationId : Text) (response : Bytes) :
    pace.Costs (3, 1) (publishReply config replyTo correlationId response) (1, 1) (2, 1) := by
  unfold publishReply
  split
  · exact Pace.costs_pure _ (by decide)
  · apply Pace.Costs.attempt
    unfold publish
    split
    · exact Pace.costs_throw _ (by decide)
    · exact Pace.Costs.bind le_rfl (fun _ => Pace.costs_ofExcept le_rfl) (costs_request rfl (by decide) le_rfl)

theorem costs_acknowledgeMessage (config : PubSubConfig) (message : PulledMessage) :
    pace.Costs (3, 1) (acknowledgeMessage config message) (2, 1) (3, 1) := by
  unfold acknowledgeMessage
  split
  · exact Pace.costs_pure _ (by decide)
  · refine Pace.Costs.bind le_rfl (fun _ => Pace.costs_pure () le_rfl) (Pace.Costs.attempt ?_)
    exact Pace.Costs.bind le_rfl (fun _ => Pace.costs_ofExcept le_rfl) (costs_request rfl (by decide) le_rfl)

theorem costs_handleMessage (config : PubSubConfig) (message : PulledMessage) :
    pace.Costs (3, 1) (handleMessage config message) 0 (3, 1) := by
  unfold handleMessage
  dsimp only
  split
  · exact Pace.costs_pure () zero_le
  refine Pace.Costs.bind (by decide) (fun processed => ?_) (costs_processMessage message.data).attempt
  split
  · refine Pace.Costs.bind (by decide) (fun published => ?_) (costs_publishReply config _ _ _)
    cases published with
    | some u => exact costs_acknowledgeMessage config message
    | none => exact Pace.costs_pure () (by decide)
  · exact Pace.costs_pure () (by decide)

theorem costs_handleBatch (config : PubSubConfig) (batch : List PulledMessage) :
    pace.Costs (3, 1) (handleBatch config batch) (3, 1) (3, 1) := by
  apply Pace.costs_forEach zero_le le_rfl le_rfl
  · intro message stop hgo
    cases stop with
    | true => cases hgo
    | false => exact Pace.Costs.bind le_rfl (fun _ => Pace.costs_pure true le_rfl) (costs_handleMessage config message)
  · intro message stop hgo
    cases stop with
    | true => exact ⟨le_rfl, rfl⟩
    | false => cases hgo

theorem costs_openSession (config : PubSubConfig) : pace.Costs (3, 1) (openSession config) 0 (3, 0) := by
  refine Pace.Costs.bind (d := (1, 0)) (by decide) (fun _ => ?_)
    (Pace.costs_call (fun _ => rfl) (fun _ => le_rfl) (by decide))
  split
  · refine Pace.Costs.bind (d := (2, 0)) (by decide) (fun _ => ?_) ?_
    · exact Pace.Costs.bind le_rfl (fun _ => Pace.costs_ofExcept le_rfl) (costs_request rfl (by decide) (by decide))
    · exact Pace.Costs.bind le_rfl (fun _ => Pace.costs_ofExcept le_rfl) (costs_request rfl (by decide) (by decide))
  · exact Pace.costs_pure () (by decide)

theorem costs_setUpSession (config : PubSubConfig) (fuel : Nat) :
    pace.Costs (3, 1) (setUpSession config fuel) (3, 0) (3, 0) := by
  apply Pace.costs_while zero_le le_rfl (by decide)
  · intro _ stop hgo
    cases stop with
    | true => cases hgo
    | false =>
      refine Pace.Costs.bind le_rfl (fun session => ?_) (costs_openSession config).attempt
      cases session <;> exact Pace.costs_pure _ le_rfl
  · intro _ stop hgo
    cases stop with
    | true => exact ⟨le_rfl, false, rfl⟩
    | false => cases hgo

theorem costs_receiveFrom (session : Bool) (parse : Text → Option Json) (config : PubSubConfig) (fuel : Nat) :
    runPace.Costs (3, 1) (receiveFrom session parse config fuel) (3, 1) (3, 1) := by
  apply Pace.costs_while zero_le le_rfl le_rfl
  · intro _ stop hgo
    cases stop with
    | true => cases hgo
    | false =>
      cases session with
      | false =>
        exact Pace.Costs.bind (d := 0) zero_le (fun _ => Pace.costs_pure _ zero_le)
          (Pace.costs_emit (fun _ => rfl) (fun _ => le_rfl) zero_le)
      | true =>
        refine Pace.Costs.bind le_rfl (fun _ => Pace.costs_pure _ le_rfl) (Pace.costs_under (Pace.Costs.attempt ?_))
        refine Pace.Costs.bind (d := (1, 1)) (by decide)
          (fun batch => (costs_handleBatch config batch).of_le (by decide)) ?_
        exact Pace.Costs.bind le_rfl (fun _ => Pace.costs_ofExcept le_rfl)
          (Pace.costs_emit (fun _ => rfl) (fun _ => le_rfl) (by decide))
  · intro _ stop hgo
    cases stop with
    | true => exact ⟨le_rfl, (), rfl⟩
    | false => cases hgo

theorem costs_run (parse : Text → Option Json) (fuel fuel' : Nat) (settings : Settings) :
    runPace.Costs (3, 1) (run parse fuel fuel' settings) 0 (3, 1) := by
  apply Pace.Costs.tryCatch le_rfl fun _ => Pace.costs_pure () le_rfl
  refine Pace.Costs.bind zero_le (fun _ => ?_) (Pace.costs_ofExcept le_rfl)
  cases settings.2 with
  | false => exact Pace.costs_throw notConfigured zero_le
  | true =>
    refine Pace.Costs.bind (by decide) (fun session => ?_)
      (Pace.costs_under ((costs_setUpSession settings.1 fuel).of_le zero_le))
    exact (costs_receiveFrom session parse settings.1 fuel').of_le (by decide)

end PubSub

/-- **A stop takes effect promptly**: over every interleaving of start, stop and configure, a run that a stop finds
active does at most three things more with its broker and its handler, and at most one of them is a receive or a call of
the handler. -/
theorem stops_promptly :
    (∀ (sdk : Sqs.Sdk) (fuel : Nat) (calls : Nat → Sqs.Call) (settings : Sqs.Settings) t s,
      Execution (Lifecycle.step Sqs.RunEvent.reads) (Sqs.program sdk fuel calls) { config := settings } t s →
        Lifecycle.StopsWithin Sqs.RunEvent.operates Sqs.RunEvent.works 3 1 t) ∧
      ∀ (parse : Text → Option Json) (fuel fuel' : Nat) (calls : Nat → PubSub.Call) (settings : PubSub.Settings) t s,
        Execution (Lifecycle.step PubSub.RunEvent.reads) (PubSub.program parse fuel fuel' calls) { config := settings }
          t s →
        Lifecycle.StopsWithin PubSub.RunEvent.operates PubSub.RunEvent.works 3 1 t := by
  constructor
  · intro sdk fuel calls settings t s hx
    exact Lifecycle.stopsWithin_of_execution le_rfl (Sqs.safe_run sdk fuel) (Sqs.costs_run sdk fuel) hx
  · intro parse fuel fuel' calls settings t s hx
    exact Lifecycle.stopsWithin_of_execution le_rfl (PubSub.safe_run parse fuel fuel')
      (PubSub.costs_run parse fuel fuel') hx

/-! ## A stop in the middle of a run -/

/-- Call 0 starts the server, and call 1 stops it when it has done `work`; it then does `left`. -/
def stoppedAfter {Ev Config : Type} (settings : Config) (work left : List Ev) : List (Nat × Lifecycle.Event Ev Config) :=
  ([(0, .enter true), (0, .copyConfig settings)] ++ work.map (fun event => (0, .body event))) ++ (1, .requestStop) ::
    (left.map (fun event => (0, .body event)) ++ [(0, .leave), (1, .passWait)])

namespace Sqs

/-- Of an empty payload. -/
def demoMessage : Message where
  body := payloadPrefix
  receiptHandle := ['h']
  messageAttributes := [(correlationIdAttribute, ['c']), (replyToAttribute, ['r'])]

def demoReceived : List RunEvent :=
  [.server (.createClient (.ok ())), .publishClient false, .server (.stopRequested false),
    .server (.receiveMessage (receiveRequest demoSettings.1) (.ok (.ok [demoMessage]))), .server (.stopRequested false)]

/-- A codec that only knows the empty payload. -/
def emptySdk : Sdk := { base64Encode := fun _ => [], base64Decode := fun _ => [] }

def demoAnswered : List RunEvent :=
  [.server (.processMessage [] [] (.ok true)), .server (.newCorrelationId ['d']),
    .server (.sendMessage (replyRequest ['r'] ['c'] payloadPrefix) (.ok (.ok ()))),
    .server (.deleteMessage ['q'] ['h'] (.ok (.ok ()))), .server (.stopRequested true)]

/-- A stop while the handler runs. -/
theorem answered_execution : ∃ s, Execution (Lifecycle.step RunEvent.reads) (program emptySdk 2 demoCalls)
    { config := demoSettings } (stoppedAfter demoSettings demoReceived demoAnswered) s := by
  refine ⟨_, rfl, fun n => ?_⟩
  match n with
  | 0 =>
    refine ⟨.done (), Prog.runs_ask.2 ⟨true, rfl, Prog.runs_ask.2 ⟨demoSettings, rfl, ?_⟩⟩⟩
    refine Prog.runs_ask.2 ⟨.ok (), rfl, Prog.runs_ask.2 ⟨false, rfl, Prog.runs_ask.2 ⟨false, rfl, ?_⟩⟩⟩
    refine Prog.runs_ask.2 ⟨.ok (.ok [demoMessage]), rfl, Prog.runs_ask.2 ⟨false, rfl, ?_⟩⟩
    refine Prog.runs_ask.2 ⟨([], .ok true), rfl, Prog.runs_ask.2 ⟨['d'], rfl, ?_⟩⟩
    refine Prog.runs_ask.2 ⟨.ok (.ok ()), rfl, Prog.runs_ask.2 ⟨.ok (.ok ()), rfl, ?_⟩⟩
    exact Prog.runs_ask.2 ⟨true, rfl, Prog.runs_ask.2 ⟨(), rfl, rfl, rfl⟩⟩
  | 1 => exact ⟨.done (), Prog.runs_ask.2 ⟨(), rfl, Prog.runs_ask.2 ⟨(), rfl, rfl, rfl⟩⟩⟩
  | n + 2 => exact ⟨.cut, Prog.runs_ask_cut _ _⟩

end Sqs

namespace PubSub

def creating : PubSubConfig := { demoSettings.1 with autoCreate := true }

def created : Except Error HttpResult := .ok { status := 200 }

def demoLooked : List RunEvent := [.server (.stopRequested false)]

def demoOpened : List RunEvent :=
  [.server (.newSession (.ok ())), .server (.request (topicRequest creating creating.requestTopic) created),
    .server (.request (subscriptionRequest creating creating.requestSubscription creating.requestTopic) created),
    .server (.stopRequested true)]

/-- A stop while a session is opened. -/
theorem opened_execution (parse : Text → Option Json) : ∃ s, Graftcode.Execution (Lifecycle.step RunEvent.reads)
    (program parse 1 1 demoCalls) { config := (creating, true) } (stoppedAfter (creating, true) demoLooked demoOpened)
    s := by
  refine ⟨_, rfl, fun n => ?_⟩
  match n with
  | 0 =>
    refine ⟨.done (), Prog.runs_ask.2 ⟨true, rfl, Prog.runs_ask.2 ⟨(creating, true), rfl, ?_⟩⟩⟩
    refine Prog.runs_ask.2 ⟨false, rfl, Prog.runs_ask.2 ⟨.ok (), rfl, Prog.runs_ask.2 ⟨created, rfl, ?_⟩⟩⟩
    exact Prog.runs_ask.2 ⟨created, rfl, Prog.runs_ask.2 ⟨true, rfl, Prog.runs_ask.2 ⟨(), rfl, rfl, rfl⟩⟩⟩
  | 1 => exact ⟨.done (), Prog.runs_ask.2 ⟨(), rfl, Prog.runs_ask.2 ⟨(), rfl, rfl, rfl⟩⟩⟩
  | n + 2 => exact ⟨.cut, Prog.runs_ask_cut _ _⟩

end PubSub

/-- Both bounds are reached. -/
theorem stops_promptly_demo :
    Lifecycle.StopsWithin Sqs.RunEvent.operates Sqs.RunEvent.works 3 1
        (stoppedAfter Sqs.demoSettings Sqs.demoReceived Sqs.demoAnswered) ∧
      ¬ Lifecycle.StopsWithin Sqs.RunEvent.operates Sqs.RunEvent.works 2 1
        (stoppedAfter Sqs.demoSettings Sqs.demoReceived Sqs.demoAnswered) ∧
      Lifecycle.StopsWithin PubSub.RunEvent.operates PubSub.RunEvent.works 3 1
        (stoppedAfter (PubSub.creating, true) PubSub.demoLooked PubSub.demoOpened) ∧
      ¬ Lifecycle.StopsWithin PubSub.RunEvent.operates PubSub.RunEvent.works 2 1
        (stoppedAfter (PubSub.creating, true) PubSub.demoLooked PubSub.demoOpened) := by
  obtain ⟨s, hx⟩ := Sqs.answered_execution
  obtain ⟨s', hx'⟩ := PubSub.opened_execution fun _ => none
  refine ⟨stops_promptly.1 _ 2 Sqs.demoCalls Sqs.demoSettings _ s hx, fun htwo => ?_,
    stops_promptly.2 _ 1 1 PubSub.demoCalls (PubSub.creating, true) _ s' hx', fun htwo => ?_⟩
  · have hthree := (htwo _ 1 _ 0 rfl ⟨by simp [historiesOf, ofActor], by simp [historiesOf, ofActor]⟩).1
    exact absurd hthree (by decide)
  · have hthree := (htwo _ 1 _ 0 rfl ⟨by simp [historiesOf, ofActor], by simp [historiesOf, ofActor]⟩).1
    exact absurd hthree (by decide)

end Graftcode
