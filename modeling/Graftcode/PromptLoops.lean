import Graftcode.KafkaServerWorker
import Graftcode.Pace
import Graftcode.RabbitMqSockets
import Graftcode.ServiceBusServer
import Mathlib.Algebra.Order.Group.Nat
import Mathlib.Algebra.Order.Monoid.Prod
/-!
# PromptLoops — what the consumer loops still do after they were told to stop

The loops of Kafka, RabbitMQ and Service Bus poll a flag that any thread sets.  A start clears it again, so what is said
of a stop holds up to the next start.  Counted is what a loop asks of its broker and of the handler, and not its looks
at the flag.  What AMQP-CPP calls back while it parses a chunk is handled to the end of the chunk: RabbitMQ is bounded by
what it asks the socket for.
-/
namespace Graftcode

open Prog (emit call attempt iterate runs_ask runs_ask_cut)

namespace Kafka
namespace Worker

def handles : Event → Bool
  | .loop (.processMessage _ _ _) => true
  | _                             => false

/-- The worker calls librdkafka, but to poll its producer, or the handler. -/
def operates : Event → Bool
  | .loop (.running _)           => false
  | .loop (.processConfigured _) => false
  | .loop _                      => true
  | _                            => false

/-- Once the flag is cleared, and until the next start, a worker has at most so many operations left, of which `busy` are
calls of the handler. -/
def StopsWithin (operations busy : Nat) (t : List (Actor × Event)) : Prop :=
  ∀ before k was after, t = before ++ (.call k, .exchange false was) :: after →
    (∀ m was', (.call m, .exchange true was') ∉ after) → ∀ n,
      (ofActor (.worker n) after).countP operates ≤ operations ∧ (ofActor (.worker n) after).countP handles ≤ busy

def goesOn : Event → Bool
  | .loop (.running running) => running
  | _                        => false

def pace : Pace Event (Nat × Nat) := Pace.counting goesOn operates handles

/-- The pace of the loop. -/
abbrev loopPace : Pace Kafka.Event (Nat × Nat) := pace.comap Event.loop

theorem costs_step {A : Type} {ev : A → Kafka.Event} (hoperates : ∀ a, operates (.loop (ev a)) = true)
    (hhandles : ∀ a, handles (.loop (ev a)) = false) {a b : Nat} (ha : a < 7) (hb : b ≤ 1) :
    loopPace.Costs (7, 1) (emit ev : Prog Exn _ A) (a, b) (a + 1, b) := by
  have hstay (x : A) : goesOn (.loop (ev x)) = false := by
    have hx := hoperates x
    revert hx
    generalize ev x = e
    cases e <;> simp [operates, goesOn]
  apply Pace.costs_emit hstay
  · intro x
    have hcost : loopPace.cost (ev x) = (1, 0) := by simp [pace, Pace.comap, Pace.counting, hoperates, hhandles]
    rw [hcost]
    exact ⟨(Nat.add_comm _ _).le, (Nat.zero_add _).le⟩
  · exact ⟨ha, hb⟩

theorem costs_attemptCall {A : Type} {ev : Except Exn A → Kafka.Event} (hoperates : ∀ a, operates (.loop (ev a)) = true)
    (hhandles : ∀ a, handles (.loop (ev a)) = false) {a b : Nat} (ha : a < 7) (hb : b ≤ 1) :
    loopPace.Costs (7, 1) (attempt (fun _ => true) (call ev)) (a, b) (a + 1, b) :=
  (Pace.Costs.bind le_rfl (fun _ => Pace.costs_ofExcept le_rfl) (costs_step hoperates hhandles ha hb)).attempt

theorem costs_commitSync (record : Record) {a b : Nat} (ha : a < 7) (hb : b ≤ 1) :
    loopPace.Costs (7, 1) (commitSync record) (a, b) (a + 1, b) :=
  Pace.Costs.bind le_rfl (fun _ => Pace.costs_pure () le_rfl) (costs_step (fun _ => rfl) (fun _ => rfl) ha hb)

theorem costs_reply (replyTo correlationId : Text) (response : Bytes) :
    loopPace.Costs (7, 1) (reply replyTo correlationId response) (2, 1) (4, 1) := by
  unfold reply
  split
  · exact Pace.costs_pure () (by decide)
  · refine Pace.Costs.bind (d := (3, 1)) (by decide) (fun _ => ?_) ?_
    · exact Pace.Costs.bind le_rfl (fun _ => Pace.costs_pure () le_rfl)
        (costs_step (fun _ => rfl) (fun _ => rfl) (by decide) le_rfl)
    · refine Pace.Costs.bind le_rfl (fun error => ?_) (costs_step (fun _ => rfl) (fun _ => rfl) (by decide) le_rfl)
      cases error with
      | none => exact Pace.costs_pure () le_rfl
      | some text => exact Pace.costs_throw _ le_rfl

theorem costs_handleRecord (config : KafkaServerConfig) (record : Record) :
    loopPace.Costs (7, 1) (handleRecord config record) (1, 0) (5, 1) := by
  refine Pace.Costs.bind (d := (1, 0)) (by decide) (fun configured => ?_)
    (Pace.costs_emit (fun _ => rfl) (fun _ => le_rfl) (by decide))
  cases configured with
  | false => exact (costs_commitSync record (by decide) (by decide)).trans (by decide)
  | true =>
    refine Pace.Costs.bind (d := (2, 1)) (by decide) (fun result => ?_) ?_
    · obtain ⟨ok, response⟩ := result
      cases ok with
      | false => exact (costs_commitSync (a := 2) record (by decide) le_rfl).trans (by decide)
      | true =>
        exact Pace.Costs.bind (by decide) (fun _ => costs_commitSync record (by decide) le_rfl)
          (costs_reply _ _ response)
    · exact Pace.Costs.bind le_rfl (fun _ => Pace.costs_ofExcept le_rfl)
        (Pace.costs_emit (fun _ => rfl) (fun _ => le_rfl) (by decide))

theorem costs_receive (config : KafkaServerConfig) (fuel : Nat) :
    loopPace.Costs (7, 1) (receive config fuel) (5, 1) (5, 1) := by
  apply Pace.costs_while zero_le le_rfl (by decide)
  · intro _ running hgo
    cases running with
    | false => cases hgo
    | true =>
      refine Pace.Costs.bind (d := (1, 0)) (by decide) (fun consumed => ?_)
        (costs_step (fun _ => rfl) (fun _ => rfl) (by decide) (by decide))
      cases consumed with
      | record record =>
        exact Pace.Costs.bind le_rfl (fun _ => Pace.costs_pure _ le_rfl) (costs_handleRecord config record)
      | _ => exact Pace.costs_pure _ (by decide)
  · intro _ running hgo
    cases running with
    | false => exact ⟨le_rfl, (), rfl⟩
    | true => cases hgo

theorem costs_consumeAndClose (config : KafkaServerConfig) (fuel : Nat) :
    loopPace.Costs (7, 1) (consumeAndClose config fuel) (1, 0) (6, 1) := by
  refine Pace.Costs.bind (d := (2, 0)) (by decide) (fun consumer => ?_)
    (costs_attemptCall (fun _ => rfl) (fun _ => rfl) (by decide) (by decide))
  cases consumer with
  | none => exact Pace.costs_pure () (by decide)
  | some _ =>
    refine Pace.Costs.bind (d := (5, 1)) (by decide) (fun _ => ?_) (Pace.Costs.attempt ?_)
    · exact Pace.Costs.bind le_rfl (fun _ => Pace.costs_pure () le_rfl)
        (costs_attemptCall (fun _ => rfl) (fun _ => rfl) (by decide) le_rfl)
    · refine Pace.Costs.bind (d := (3, 0)) (by decide)
        (fun _ => (costs_receive config fuel).of_le (by decide)) ?_
      refine Pace.Costs.bind le_rfl (fun error => ?_)
        (costs_step (fun _ => rfl) (fun _ => rfl) (by decide) (by decide))
      cases error with
      | none => exact Pace.costs_pure () le_rfl
      | some text => exact Pace.costs_throw _ le_rfl

theorem costs_connection (config : KafkaServerConfig) (fuel : Nat) :
    loopPace.Costs (7, 1) (connection config fuel) 0 (7, 1) := by
  refine Pace.Costs.bind (d := (1, 0)) (by decide) (fun producer => ?_)
    (costs_attemptCall (fun _ => rfl) (fun _ => rfl) (by decide) (by decide))
  cases producer with
  | none => exact Pace.costs_pure () (by decide)
  | some _ =>
    refine Pace.Costs.bind (by decide) (fun _ => ?_) (costs_consumeAndClose config fuel)
    exact Pace.Costs.bind le_rfl (fun _ => Pace.costs_pure () le_rfl)
      (costs_step (fun _ => rfl) (fun _ => rfl) (by decide) le_rfl)

theorem costs_loop (config : KafkaServerConfig) (fuel : Nat) :
    loopPace.Costs (7, 1) (Kafka.loop config fuel) (7, 1) (7, 1) := by
  apply Pace.costs_while zero_le le_rfl le_rfl
  · intro _ running hgo
    cases running with
    | false => cases hgo
    | true => exact Pace.Costs.bind le_rfl (fun _ => Pace.costs_pure _ le_rfl) (costs_connection config fuel)
  · intro _ running hgo
    cases running with
    | false => exact ⟨le_rfl, (), rfl⟩
    | true => cases hgo

theorem costs_worker (config : KafkaServerConfig) (fuel : Nat) : pace.Costs (7, 1) (worker config fuel) 0 (7, 1) := by
  refine Pace.Costs.bind (d := (7, 1)) le_rfl (fun _ => ?_) ?_
  · exact Pace.costs_emit (fun _ => rfl) (fun _ => le_rfl) le_rfl
  · exact Pace.costs_under ((costs_loop config fuel).of_le zero_le)

/-- Only a start sets the flag. -/
theorem running_stays {s s' : State} {a : Actor} {e : Event} (hrunning : s.running = false)
    (he : ∀ m was, (a, e) ≠ (.call m, .exchange true was)) (hs : step s a e = some s') : s'.running = false := by
  obtain ⟨-, hs⟩ := step_eq_some.1 hs
  cases a with
  | worker n => rcases effect_worker hs with rfl | rfl <;> exact hrunning
  | call n =>
    cases e with
    | exchange desired was =>
      simp only [effect, Option.ite_none_right_eq_some, Option.some.injEq] at hs
      obtain ⟨-, rfl⟩ := hs
      cases desired with
      | true => exact absurd rfl (he n was)
      | false => rfl
    | construct result => cases result <;> cases hs <;> exact hrunning
    | assign =>
      simp only [effect] at hs
      split at hs <;> cases hs <;> exact hrunning
    | joinable joinable =>
      simp only [effect, Option.ite_none_right_eq_some, Option.some.injEq] at hs
      rw [← hs.2]
      exact hrunning
    | join result =>
      cases result with
      | error x =>
        cases hs
        exact hrunning
      | ok _ =>
        simp only [effect, Option.bind_eq_some_iff, Option.ite_none_right_eq_some, Option.some.injEq] at hs
        obtain ⟨m, -, -, rfl⟩ := hs
        exact hrunning
    | _ => cases hs

/-- After a stop a worker reads that it is not to run, up to the next start. -/
theorem reads_stop {s₁ s : State} {after : List (Actor × Event)} (hr : replay step s₁ after = some s)
    (hrunning : s₁.running = false) (hstart : ∀ m was, (.call m, .exchange true was) ∉ after) {n : Nat} {e : Event}
    (hm : (.worker n, e) ∈ after) : goesOn e = false := by
  obtain ⟨s₂, s₃, hstopped, hs⟩ := replay_keeps (P := fun s => s.running = false)
    (fun s a e s' hm hs₁ hs => running_stays hs₁ (fun m was heq => hstart m was (heq ▸ hm)) hs) hr hrunning hm
  obtain ⟨-, hs⟩ := step_eq_some.1 hs
  cases e with
  | loop event =>
    cases event with
    | running running =>
      simp only [effect, Option.ite_none_right_eq_some] at hs
      exact hs.1.2.trans hstopped
    | _ => rfl
  | _ => rfl

theorem stopsWithin_of_execution {op : Nat → Operation} {config : KafkaServerConfig} {fuel : Nat}
    {t : List (Actor × Event)} {s : State} (hx : Execution step (program op config fuel) {} t s) :
    StopsWithin 7 1 t := by
  intro before k was after ht hstart n
  subst ht
  rw [List.append_cons] at hx
  obtain ⟨s₁, hx₁, hr⟩ := hx.before
  obtain ⟨s₀, -, hs⟩ := replay_concat.1 hx₁.replays
  have hrunning : s₁.running = false := by
    obtain ⟨-, hs⟩ := step_eq_some.1 hs
    simp only [effect, Option.ite_none_right_eq_some, Option.some.injEq] at hs
    rw [← hs.2]
  obtain ⟨o, ho⟩ := hx.runs (.worker n)
  rw [ofActor_append] at ho
  have hsum := (costs_worker config fuel).sum_le ho fun e he => reads_stop hr hrunning hstart (mem_ofActor.1 he)
  rw [pace, Pace.sum_counting] at hsum
  exact hsum

end Worker
end Kafka
namespace ServiceBus
namespace Stopping

inductive Actor where
  | start
  | stop (n : Nat)
  deriving DecidableEq

inductive Event where
  | resetStop
  | server (event : ServiceBus.Event)
  | requestStop

/-- `start`, which clears the flag first. -/
def start (config : ServiceBusServerConfig) (fuel : Nat) : Prog Exn Event Unit := do
  emit (fun _ : Unit => Event.resetStop)
  (ServiceBus.start config fuel).under Event.server

def stop : Prog Exn Event Unit := emit fun _ : Unit => Event.requestStop

/-- The state is `g_stopRequested`. -/
def step (stopRequested : Bool) : Actor → Event → Option Bool
  | .start, .resetStop                    => some false
  | .start, .server (.stopRequested stop) => if stop = stopRequested then some stopRequested else none
  | .start, .server _                     => some stopRequested
  | .stop _, .requestStop                 => some true
  | _, _                                  => none

def program (config : ServiceBusServerConfig) (fuel : Nat) : Actor → Prog Exn Event Unit
  | .start  => start config fuel
  | .stop _ => stop

def handles : Event → Bool
  | .server (.processMessage _ _ _) => true
  | _                               => false

/-- The loop connects, receives, calls the handler, or replies. -/
def operates : Event → Bool
  | .server (.connect _)              => true
  | .server (.receive _)              => true
  | .server (.processMessage _ _ _)   => true
  | .server (.publishReply _ _ _ _ _) => true
  | _                                 => false

/-- After a stop, unless a start clears the flag then, the loop has at most so many operations left, of which `busy` are
calls of the handler. -/
def StopsWithin (operations busy : Nat) (t : List (Actor × Event)) : Prop :=
  ∀ before k after, t = before ++ (.stop k, .requestStop) :: after → (.start, .resetStop) ∉ after →
    (ofActor .start after).countP operates ≤ operations ∧ (ofActor .start after).countP handles ≤ busy

def goesOn : Event → Bool
  | .resetStop                    => true
  | .server (.stopRequested stop) => !stop
  | _                             => false

def pace : Pace Event (Nat × Nat) := Pace.counting goesOn operates handles

abbrev loopPace : Pace ServiceBus.Event (Nat × Nat) := pace.comap Event.server

theorem costs_handleMessage (config : ServiceBusServerConfig) (message : AmqpMessage) :
    loopPace.Costs (3, 1) (handleMessage config message) (1, 0) (3, 1) := by
  unfold handleMessage
  dsimp only
  split
  · exact Pace.costs_pure () (by decide)
  refine Pace.Costs.bind (d := (1, 0)) (by decide) (fun configured => ?_)
    (Pace.costs_emit (fun _ => rfl) (fun _ => le_rfl) (by decide))
  cases configured with
  | false => exact Pace.costs_throw notConfigured (by decide)
  | true =>
    refine Pace.Costs.bind (d := (2, 1)) (by decide) (fun result => ?_) ?_
    · obtain ⟨processed, response⟩ := result
      cases processed with
      | false => exact Pace.costs_pure () (by decide)
      | true =>
        rw [if_neg (by simp)]
        split
        · exact Pace.costs_pure () (by decide)
        · unfold reply
          split
          · exact Pace.costs_pure () (by decide)
          · exact Pace.Costs.bind le_rfl (fun _ => Pace.costs_pure () le_rfl)
              (Pace.costs_call (fun _ => rfl) (fun _ => le_rfl) (by decide))
    · exact Pace.Costs.bind le_rfl (fun _ => Pace.costs_ofExcept le_rfl)
        (Pace.costs_emit (fun _ => rfl) (fun _ => le_rfl) (by decide))

theorem costs_receive (config : ServiceBusServerConfig) (fuel : Nat) :
    loopPace.Costs (3, 1) (receive config fuel) (3, 1) (3, 1) := by
  apply Pace.costs_while zero_le le_rfl le_rfl
  · intro _ stop hgo
    cases stop with
    | true => cases hgo
    | false =>
      refine Pace.Costs.bind (d := (1, 0)) (by decide) (fun incoming => ?_)
        (Pace.costs_emit (fun _ => rfl) (fun _ => le_rfl) (by decide))
      cases incoming with
      | message m => exact Pace.Costs.bind le_rfl (fun _ => Pace.costs_pure _ le_rfl) (costs_handleMessage config m)
      | _ => exact Pace.costs_pure _ (by decide)
  · intro _ stop hgo
    cases stop with
    | true => exact ⟨le_rfl, (), rfl⟩
    | false => cases hgo

theorem costs_connection (config : ServiceBusServerConfig) (fuel : Nat) :
    loopPace.Costs (3, 1) (connection config fuel) 0 (3, 1) := by
  refine Pace.Costs.bind (d := (1, 0)) (by decide) (fun _ => ?_)
    (Pace.costs_call (fun _ => rfl) (fun _ => le_rfl) (by decide))
  refine Pace.Costs.bind (by decide) (fun _ => ?_) ((costs_receive config fuel).of_le (by decide))
  exact Pace.costs_emit (fun _ => rfl) (fun _ => le_rfl) (by decide)

theorem costs_start (config : ServiceBusServerConfig) (fuel : Nat) :
    loopPace.Costs (3, 1) (ServiceBus.start config fuel) (3, 1) (3, 1) := by
  apply Pace.Costs.tryCatch le_rfl fun _ => Pace.costs_pure () le_rfl
  apply Pace.costs_while zero_le le_rfl le_rfl
  · intro _ stop hgo
    cases stop with
    | true => cases hgo
    | false => exact Pace.Costs.bind le_rfl (fun _ => Pace.costs_pure _ le_rfl) (costs_connection config fuel).attempt
  · intro _ stop hgo
    cases stop with
    | true => exact ⟨le_rfl, (), rfl⟩
    | false => cases hgo

theorem costs_program (config : ServiceBusServerConfig) (fuel : Nat) :
    pace.Costs (3, 1) (start config fuel) 0 (3, 1) := by
  refine Pace.costs_look zero_le (fun _ _ => ?_) nofun
  exact Pace.costs_under ((costs_start config fuel).of_le zero_le)

/-- Only a start clears the flag. -/
theorem stop_stays {s' : Bool} {a : Actor} {e : Event} (he : (a, e) ≠ (.start, .resetStop))
    (hs : step true a e = some s') : s' = true := by
  cases a with
  | start =>
    cases e with
    | resetStop => exact absurd rfl he
    | server event =>
      cases event with
      | stopRequested stop =>
        simp only [step, Option.ite_none_right_eq_some, Option.some.injEq] at hs
        exact hs.2.symm
      | _ => exact (Option.some.inj hs).symm
    | requestStop => cases hs
  | stop n =>
    cases e with
    | requestStop => exact (Option.some.inj hs).symm
    | _ => cases hs

theorem stopsWithin_of_execution {config : ServiceBusServerConfig} {fuel : Nat} {s₀ : Bool} {t : List (Actor × Event)}
    {s : Bool} (hx : Execution step (program config fuel) s₀ t s) : StopsWithin 3 1 t := by
  intro before k after ht hreset
  subst ht
  rw [List.append_cons] at hx
  obtain ⟨s₁, hx₁, hr⟩ := hx.before
  obtain ⟨s₂, -, hs⟩ := replay_concat.1 hx₁.replays
  have hset : s₁ = true := (Option.some.inj hs).symm
  obtain ⟨o, ho⟩ := hx.runs .start
  rw [ofActor_append] at ho
  have hreads : ∀ e ∈ ofActor .start after, goesOn e = false := by
    intro e he
    rw [mem_ofActor] at he
    obtain ⟨s₃, s₄, hstop, hs⟩ := replay_keeps (P := fun s => s = true)
      (fun s a e s' hm hs₁ hs => stop_stays (fun heq => hreset (heq ▸ hm)) (hs₁ ▸ hs)) hr hset he
    cases e with
    | resetStop => exact absurd he hreset
    | server event =>
      cases event with
      | stopRequested stop =>
        simp only [step, Option.ite_none_right_eq_some] at hs
        rw [goesOn, hs.1, hstop]
        rfl
      | _ => rfl
    | requestStop => rfl
  have hsum := (costs_program config fuel).sum_le ho hreads
  rw [pace, Pace.sum_counting] at hsum
  exact hsum

end Stopping
end ServiceBus

namespace RabbitMq
namespace Sockets

/-- The loop waits for the broker: it connects, or reads from the socket. -/
def waits : Event → Bool
  | .server (.connect _) => true
  | .server (.recv _ _)  => true
  | _                    => false

/-- After a stop, unless a start clears the flag then, the loop connects or reads at most so often. -/
def StopsWithin (reads : Nat) (t : List (Actor × Event)) : Prop :=
  ∀ before k after, t = before ++ (.stop k, .requestStop) :: after → (.loop, .resetStop) ∉ after →
    (ofActor .loop after).countP waits ≤ reads

def goesOn : Event → Bool
  | .resetStop                    => true
  | .server (.stopRequested stop) => !stop
  | _                             => false

def pace : Pace Event Nat where
  go := goesOn
  cost e := if waits e then 1 else 0

/-- The pace of a connection. -/
abbrev serverPace : Pace RabbitMq.Event Nat := pace.comap Event.server

theorem sum_pace : ∀ u : List Event, (u.map pace.cost).sum = u.countP waits
  | []     => rfl
  | e :: u => by
    rw [List.map_cons, List.sum_cons, sum_pace u, List.countP_cons]
    exact Nat.add_comm _ _

/-- The events of a callback are neither looks at the flag nor waits. -/
theorem costs_onCallback (callback : Callback) {c : Nat} (hc : c ≤ 1) :
    serverPace.Costs 1 (onCallback callback) c c := by
  apply Pace.costs_of_keeps (h := []) hc
  refine (ofCallback_onCallback callback []).weaken (fun _ _ _ => trivial) fun _ e he => ?_
  cases e <;> first | exact ⟨rfl, rfl⟩ | exact he.elim

theorem costs_parse (pending : Bytes) (fuel : Nat) (closed : Bool) {c : Nat} (hc : c ≤ 1) :
    serverPace.Costs 1 (parse pending fuel closed) c c := by
  apply Pace.costs_iterate
  intro closed
  refine Pace.Costs.bind le_rfl (fun next => ?_) (Pace.costs_emit (fun _ => rfl) (fun _ => (Nat.zero_add c).le) hc)
  cases next with
  | calls callback => exact Pace.Costs.bind le_rfl (fun _ => Pace.costs_pure _ le_rfl) (costs_onCallback callback hc)
  | returns parsed => exact Pace.costs_pure _ le_rfl
  | throws e => exact Pace.costs_throw e le_rfl

theorem costs_parsePending (fuel fuel' : Nat) (state : Runtime) {c : Nat} (hc : c ≤ 1) :
    serverPace.Costs 1 (parsePending fuel fuel' state) c c := by
  apply Pace.costs_iterate
  intro state
  dsimp only
  split
  · exact Pace.costs_pure _ le_rfl
  · refine Pace.Costs.bind le_rfl (fun parsed => ?_) (costs_parse state.pendingBytes fuel state.connectionClosed hc)
    split <;> exact Pace.costs_pure _ le_rfl

theorem costs_socketError (text : String) (errno : Text) (state : Runtime) :
    serverPace.Costs 1 (socketError text errno state) 1 1 := by
  refine Pace.costs_look zero_le (fun stop hgo => ?_) fun stop hgo => ⟨?_, ?_⟩
  · cases stop with
    | true => cases hgo
    | false => exact Pace.costs_throw _ zero_le
  · cases stop with
    | true => exact le_rfl
    | false => cases hgo
  · cases stop with
    | true => exact Pace.costs_pure _ le_rfl
    | false => cases hgo

theorem costs_receive (socket : Socket) (fuel fuel' : Nat) (state : Runtime) :
    serverPace.Costs 1 (receive socket fuel fuel' state) 1 1 := by
  apply Pace.costs_while zero_le le_rfl le_rfl
  · intro state stop hgo
    split
    · exact Pace.costs_pure _ zero_le
    refine Pace.Costs.bind (d := 0) zero_le (fun status => ?_)
      (Pace.costs_emit (fun _ => rfl) (fun _ => le_rfl) zero_le)
    cases status with
    | timeout => exact Pace.costs_pure _ zero_le
    | error errno => exact (costs_socketError _ errno state).of_le zero_le
    | readable =>
      refine Pace.Costs.bind (d := 1) le_rfl (fun received => ?_)
        (Pace.costs_emit (fun _ => rfl) (fun _ => le_rfl) le_rfl)
      cases received with
      | error errno => exact costs_socketError _ errno state
      | bytes chunk =>
        exact Pace.Costs.bind le_rfl (fun _ => Pace.costs_pure _ le_rfl) (costs_parsePending fuel fuel _ le_rfl)
      | _ => exact Pace.costs_pure _ le_rfl
  · intro state stop hgo
    cases stop with
    | true => exact ⟨le_rfl, state, rfl⟩
    | false => cases hgo

theorem costs_forget (socket : Socket) : serverPace.Costs 1 (forget socket) 1 1 :=
  Pace.Costs.bind le_rfl (fun _ => Pace.costs_emit (fun _ => rfl) (fun _ => le_rfl) le_rfl)
    (Pace.costs_emit (fun _ => rfl) (fun _ => le_rfl) le_rfl)

theorem costs_consume (socket : Socket) (fuel : Nat) : serverPace.Costs 1 (consume socket fuel) 1 1 := by
  refine Pace.Costs.bind le_rfl (fun _ => ?_) (Pace.costs_emit (fun _ => rfl) (fun _ => le_rfl) le_rfl)
  refine Pace.Costs.bind le_rfl (fun _ => ?_) (Pace.costs_call (fun _ => rfl) (fun _ => le_rfl) le_rfl)
  refine Pace.Costs.bind le_rfl (fun state => ?_) (costs_receive socket fuel fuel {})
  split
  · exact Pace.Costs.bind le_rfl (fun _ => costs_forget socket)
      (Pace.costs_call (fun _ => rfl) (fun _ => le_rfl) le_rfl)
  · exact costs_forget socket

theorem costs_retry {log : Except Exn Unit → Event} (hstay : ∀ result, goesOn (log result) = false)
    (hwaits : ∀ result, waits (log result) = false) : pace.Costs 1 (retry log) 1 1 := by
  refine Pace.costs_look zero_le (fun stop hgo => ?_) fun stop hgo => ⟨?_, ?_⟩
  · cases stop with
    | true => cases hgo
    | false =>
      apply Pace.costs_call hstay _ le_rfl
      intro result
      have hcost : pace.cost (log result) = 0 := by simp [pace, hwaits]
      rw [hcost]
      exact zero_le
  · cases stop with
    | true => exact le_rfl
    | false => cases hgo
  · cases stop with
    | true => exact Pace.costs_pure _ le_rfl
    | false => cases hgo

theorem costs_handleError (socket : Socket) : pace.Costs 1 (handleError socket) 1 1 := by
  have hretry := @costs_retry Event.logError (fun _ => rfl) fun _ => rfl
  unfold handleError
  split
  · exact Pace.Costs.bind le_rfl (fun _ => hretry) (Pace.costs_under (costs_forget socket))
  · exact hretry

theorem costs_connection (fuel : Nat) : pace.Costs 1 (connection fuel) 0 1 := by
  refine Pace.Costs.bind (d := 1) le_rfl (fun socket => ?_) (Pace.Costs.attempt ?_)
  · match socket with
    | none               => exact costs_handleError kInvalidSocket
    | some none          => exact Pace.costs_pure () le_rfl
    | some (some socket) =>
      refine Pace.Costs.bind le_rfl (fun ended => ?_) (Pace.Costs.attempt ?_)
      · cases ended with
        | none => exact costs_handleError socket
        | some _ => exact Pace.costs_pure () le_rfl
      · exact Pace.Costs.bind le_rfl (fun _ => costs_retry (fun _ => rfl) fun _ => rfl)
          (Pace.costs_under (costs_consume socket fuel))
  · exact Pace.costs_call (fun _ => rfl) (fun _ => le_rfl) le_rfl

theorem costs_loop (fuel : Nat) : pace.Costs 1 (loop fuel ()) 1 1 := by
  apply Pace.costs_while zero_le le_rfl le_rfl
  · intro _ stop hgo
    cases stop with
    | true => cases hgo
    | false => exact Pace.Costs.bind le_rfl (fun _ => Pace.costs_pure _ le_rfl) (costs_connection fuel)
  · intro _ stop hgo
    cases stop with
    | true => exact ⟨le_rfl, (), rfl⟩
    | false => cases hgo

theorem costs_start (fuel : Nat) : pace.Costs 1 (start fuel) 0 1 := by
  apply Pace.Costs.tryCatch le_rfl fun _ => Pace.costs_pure () le_rfl
  refine Pace.costs_look zero_le (fun _ _ => ?_) nofun
  exact Pace.Costs.bind le_rfl (fun _ => Pace.costs_emit (fun _ => rfl) (fun _ => le_rfl) le_rfl)
    ((costs_loop fuel).of_le zero_le)

/-- Only a start clears the flag. -/
theorem stop_stays {s s' : State} {a : Actor} {e : Event} (hstop : s.stopRequested = true)
    (he : (a, e) ≠ (.loop, .resetStop)) (hs : step s a e = some s') : s'.stopRequested = true := by
  unfold step at hs
  split at hs
  · exact absurd rfl he
  all_goals
    repeat' split at hs
    all_goals cases hs
    all_goals first | exact hstop | rfl

theorem stopsWithin_of_execution {fuel : Nat} {t : List (Actor × Event)} {s : State}
    (hx : Execution step (program fuel) {} t s) : StopsWithin 1 t := by
  intro before k after ht hreset
  subst ht
  rw [List.append_cons] at hx
  obtain ⟨s₁, hx₁, hr⟩ := hx.before
  obtain ⟨s₂, -, hs⟩ := replay_concat.1 hx₁.replays
  have hset : s₁.stopRequested = true := by
    cases hs
    rfl
  obtain ⟨o, ho⟩ := hx.runs .loop
  rw [ofActor_append] at ho
  have hreads : ∀ e ∈ ofActor .loop after, goesOn e = false := by
    intro e he
    rw [mem_ofActor] at he
    obtain ⟨s₃, s₄, hstop, hs⟩ := replay_keeps (P := fun s => s.stopRequested = true)
      (fun s a e s' hm hs₁ hs => stop_stays hs₁ (fun heq => hreset (heq ▸ hm)) hs) hr hset he
    cases e with
    | resetStop => exact absurd he hreset
    | server event =>
      cases event with
      | stopRequested stop =>
        simp only [step, Option.ite_none_right_eq_some] at hs
        rw [goesOn, hs.1, hstop]
        rfl
      | _ => rfl
    | _ => rfl
  have hsum := (costs_start fuel).sum_le ho hreads
  rwa [sum_pace] at hsum

end Sockets
end RabbitMq

/-- **A stop takes effect promptly**: whatever else runs beside it and up to the next start, a worker of Kafka has at
most seven operations left and a loop of Service Bus three, at most one of them a call of the handler, and a loop of
RabbitMQ connects or reads from its socket at most once more. -/
theorem loops_stop_promptly :
    (∀ (op : Nat → Kafka.Worker.Operation) (config : Kafka.KafkaServerConfig) (fuel : Nat) t s,
      Execution Kafka.Worker.step (Kafka.Worker.program op config fuel) {} t s → Kafka.Worker.StopsWithin 7 1 t) ∧
    (∀ (config : ServiceBus.ServiceBusServerConfig) (fuel : Nat) (s₀ : Bool) t s,
      Execution ServiceBus.Stopping.step (ServiceBus.Stopping.program config fuel) s₀ t s →
        ServiceBus.Stopping.StopsWithin 3 1 t) ∧
    ∀ (fuel : Nat) t s, Execution RabbitMq.Sockets.step (RabbitMq.Sockets.program fuel) {} t s →
      RabbitMq.Sockets.StopsWithin 1 t :=
  ⟨fun _ _ _ _ _ hx => Kafka.Worker.stopsWithin_of_execution hx,
    fun _ _ _ _ _ hx => ServiceBus.Stopping.stopsWithin_of_execution hx,
    fun _ _ _ hx => RabbitMq.Sockets.stopsWithin_of_execution hx⟩

/-! ## A stop as late as it can be -/

namespace Kafka
namespace Worker

def demoRecord : Record where
  partition := 0
  offset := 0
  payload := []
  headers := []

/-- The worker has just seen that it is to go on. -/
def demoBefore : List (Actor × Event) :=
  startTrace ++ [Kafka.Event.running true, .createProducer (.ok ()), .createConsumer (.ok ()),
    .subscribe "graft.requests".toList none, .running true].map fun event => (.worker 0, .loop event)

/-- It takes one more record, answers it, and ends. -/
def demoAfter : List (Actor × Event) :=
  ([Kafka.Event.consume (.record demoRecord), .processConfigured true, .processMessage [] [] (.ok true),
    .produce "graft.replies".toList none [] none, .flush 10000 none, .commitSync demoRecord none, .running false,
    .close (.ok ()), .flush 2000 none, .running false].map fun event => (.worker 0, .loop event)) ++
    [(.worker 0, .exit)]

def demoTrace : List (Actor × Event) := demoBefore ++ (.call 1, .exchange false true) :: demoAfter

theorem demo_execution : ∃ s, Execution step (program restart {} 2) {} demoTrace s := by
  refine ⟨_, rfl, fun a => ?_⟩
  match a with
  | .call 0 => exact ⟨_, runs_start⟩
  | .call 1 => exact ⟨_, runs_stop true⟩
  | .call (n + 2) => exact ⟨_, runs_nil (restart (n + 2))⟩
  | .worker 0 =>
    refine ⟨.done (), runs_ask.2 ⟨true, rfl, runs_ask.2 ⟨.ok (), rfl, runs_ask.2 ⟨.ok (), rfl, ?_⟩⟩⟩⟩
    refine runs_ask.2 ⟨none, rfl, runs_ask.2 ⟨true, rfl, runs_ask.2 ⟨.record demoRecord, rfl, ?_⟩⟩⟩
    refine runs_ask.2 ⟨true, rfl, runs_ask.2 ⟨([], .ok true), rfl, runs_ask.2 ⟨none, rfl, ?_⟩⟩⟩
    refine runs_ask.2 ⟨none, rfl, runs_ask.2 ⟨none, rfl, runs_ask.2 ⟨false, rfl, ?_⟩⟩⟩
    refine runs_ask.2 ⟨.ok (), rfl, runs_ask.2 ⟨none, rfl, runs_ask.2 ⟨false, rfl, ?_⟩⟩⟩
    exact runs_ask.2 ⟨(), rfl, rfl, rfl⟩
  | .worker (n + 1) => exact ⟨.cut, runs_ask_cut _ _⟩

end Worker
end Kafka

namespace ServiceBus
namespace Stopping

def demoMessage : AmqpMessage where
  body := .data [[7]]
  replyTo := .string ['r']

/-- A stop while the loop waits for a message. -/
def demoBefore : List (Actor × Event) :=
  [(.start, .resetStop), (.start, .server (.stopRequested false)), (.start, .server (.connect (.ok ()))),
    (.start, .server (.stopRequested false))]

def demoAfter : List (Actor × Event) :=
  [(.start, .server (.receive (.message demoMessage))), (.start, .server (.currentProcessMessage true)),
    (.start, .server (.processMessage [7] [some [8]] (.ok true))),
    (.start, .server (.publishReply ['r'] [8] .null none (.ok true))), (.start, .server (.stopRequested true)),
    (.start, .server .closeAll), (.start, .server (.stopRequested true))]

def demoTrace : List (Actor × Event) := demoBefore ++ (.stop 0, .requestStop) :: demoAfter

theorem demo_execution : ∃ s, Execution step (program {} 2) false demoTrace s := by
  refine ⟨_, rfl, fun a => ?_⟩
  match a with
  | .start =>
    refine ⟨.done (), runs_ask.2 ⟨(), rfl, runs_ask.2 ⟨false, rfl, runs_ask.2 ⟨.ok (), rfl, ?_⟩⟩⟩⟩
    refine runs_ask.2 ⟨false, rfl, runs_ask.2 ⟨.message demoMessage, rfl, runs_ask.2 ⟨true, rfl, ?_⟩⟩⟩
    refine runs_ask.2 ⟨([some [8]], .ok true), rfl, runs_ask.2 ⟨.ok true, rfl, runs_ask.2 ⟨true, rfl, ?_⟩⟩⟩
    exact runs_ask.2 ⟨(), rfl, runs_ask.2 ⟨true, rfl, rfl, rfl⟩⟩
  | .stop 0 => exact ⟨.done (), runs_ask.2 ⟨(), rfl, rfl, rfl⟩⟩
  | .stop (n + 1) => exact ⟨.cut, runs_ask_cut _ _⟩

end Stopping
end ServiceBus

/-- The bounds of Kafka and Service Bus are reached. -/
theorem loops_stop_promptly_demo :
    Kafka.Worker.StopsWithin 7 1 Kafka.Worker.demoTrace ∧ ¬ Kafka.Worker.StopsWithin 6 1 Kafka.Worker.demoTrace ∧
      ServiceBus.Stopping.StopsWithin 3 1 ServiceBus.Stopping.demoTrace ∧
      ¬ ServiceBus.Stopping.StopsWithin 2 1 ServiceBus.Stopping.demoTrace ∧
      RabbitMq.Sockets.StopsWithin 1 RabbitMq.Sockets.quietTrace := by
  obtain ⟨s, hx⟩ := Kafka.Worker.demo_execution
  obtain ⟨s', hx'⟩ := ServiceBus.Stopping.demo_execution
  obtain ⟨s'', hx''⟩ := RabbitMq.Sockets.quiet_execution
  refine ⟨loops_stop_promptly.1 _ _ 2 _ s hx, fun hsix => ?_, loops_stop_promptly.2.1 {} 2 false _ s' hx', fun htwo => ?_,
    loops_stop_promptly.2.2 2 _ s'' hx''⟩
  · have hseven := (hsix Kafka.Worker.demoBefore 1 true Kafka.Worker.demoAfter rfl
      (by simp [Kafka.Worker.demoAfter]) 0).1
    exact absurd hseven (by decide)
  · have hthree := (htwo ServiceBus.Stopping.demoBefore 0 ServiceBus.Stopping.demoAfter rfl
      (by simp [ServiceBus.Stopping.demoAfter])).1
    exact absurd hthree (by decide)

end Graftcode
