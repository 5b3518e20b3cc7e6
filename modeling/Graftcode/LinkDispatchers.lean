import Graftcode.LinkThreads
import Graftcode.RabbitMqClient
import Graftcode.ServiceBusClient
/-!
# LinkDispatchers — the dispatchers of the RabbitMQ and Service Bus clients

`Link::Run` with its callbacks and `Link::DispatchReplies`, as the threads of `LinkThreads`: whatever else happens in the
client, their events are the actions of a run of `LinkClient`.
-/
namespace Graftcode

namespace RabbitMq
namespace RpcClient

open LinkClient (LinkRef Signal Thread)

/-- What an event of the I/O thread is to its link. -/
def ClientEvent.signal : ClientEvent → Signal
  | .stoppingLoaded stopping           => .stoppingLoaded stopping
  | .brokenLoaded _ broken             => .brokenLoaded broken
  | .parse _ (.calls _)                => .parsing true
  | .parse _ (.returns _)              => .parsing false
  | .parse _ (.throws _)               => .parsing false
  | .brokenErrorStored error           => .failing error
  | .brokenStored                      => .brokenStored
  | .pending (.failedAll error)        => .failedAll error
  | .pending (.completed id payload _) => .completed id payload
  | .connectionErrorLoaded _           => .silent
  | .connectionClosedLoaded _          => .silent
  | .waitForSocketReadable _           => .silent
  | .recv _                            => .silent
  | .replyQueueStored _                => .silent
  | .consume _ _                       => .silent
  | .consumerReadyStored               => .silent
  | .ack _ _                           => .silent
  | .connectionErrorStored             => .silent
  | .connectionClosedStored            => .silent
  | _                                  => .foreign

section Run

variable {queue_ : Text} {α : Type} {t : Thread}

abbrev Keeps (queue_ : Text) (p : Prog Exn ClientEvent α) (Q : Thread → α → Prop) (t : Thread) : Prop :=
  Thread.Tracks (.rabbitMq queue_) ClientEvent.signal p Q t

/-- The loop runs, and no callback. -/
def Outside (t : Thread) : Prop := t.dispatcher_ = .running ∧ t.inParse = false

theorem tracks_disconnect (hrunning : t.dispatcher_ = .running) (hmay : t.inParse = true ∨ t.broken = false)
    (error : Text) :
    Keeps queue_ (disconnect error) (fun t' _ => t'.dispatcher_ = if t.inParse then .running else .exited) t := by
  refine Prog.tracks_emit_bind fun _ _ => ⟨{ t with error := some error }, rfl, ?_⟩
  refine Prog.tracks_emit_bind fun _ _ => ⟨{ t with
    dispatcher_ := .disconnecting error t.inParse
    broken := true
    error := none }, ?_, ?_⟩
  · have hmay' : (t.inParse || !t.broken) = true := by simpa using hmay
    simp [ClientEvent.signal, Thread.next, hrunning, hmay']
  · refine Prog.tracks_emit fun _ _ => ⟨{ t with
      dispatcher_ := if t.inParse then .running else .exited
      broken := true
      error := none }, ?_, rfl⟩
    simp [ClientEvent.signal, Thread.next]

/-- An event that is nothing to the link. -/
theorem next_silent {e : ClientEvent} (he : e.signal = .silent) : t.next (.rabbitMq queue_) e.signal = some t := by
  rw [he]
  rfl

/-- A callback runs inside `parse`, and leaves the thread there. -/
def Inside (t : Thread) : Prop := t.dispatcher_ = .running ∧ t.inParse = true

theorem tracks_onReceived (h : Inside t) (message : Message) (deliveryTag : Nat) :
    Keeps queue_ (onReceived message deliveryTag) (fun t' _ => t'.dispatcher_ = .running) t := by
  refine Prog.tracks_call_bind fun r _ => ⟨t, next_silent rfl, fun acked _ => ?_⟩
  cases message.correlationID with
  | none    => exact h.1
  | some id =>
    refine Prog.tracks_emit_bind fun found _ => ⟨t, ?_, h.1⟩
    simp [ClientEvent.signal, Thread.next, h.1]

theorem tracks_onCallback (h : Inside t) (callback : Callback) :
    Keeps queue_ (onCallback callback) (fun t' _ => t'.dispatcher_ = .running) t := by
  cases callback with
  | declared name                =>
    refine Prog.tracks_emit_bind fun _ _ => ⟨t, next_silent rfl, ?_⟩
    refine (Prog.tracks_bind' ..).2 fun r _ => ⟨t, next_silent rfl, ?_⟩
    cases r with
    | ok u    => exact h.1
    | error e => trivial
  | consuming                    => exact Prog.tracks_emit fun _ _ => ⟨t, next_silent rfl, h.1⟩
  | received message deliveryTag => exact tracks_onReceived h message deliveryTag
  | channelError message         =>
    refine (tracks_disconnect h.1 (Or.inl h.2) _).mono fun t' r hr => ?_
    cases r with
    | ok u    => rwa [h.2] at hr
    | error e => trivial
  | connectionError              => exact Prog.tracks_emit fun _ _ => ⟨t, next_silent rfl, h.1⟩
  | connectionClosed             => exact Prog.tracks_emit fun _ _ => ⟨t, next_silent rfl, h.1⟩

/-- Whatever the callbacks do, `parse` is left with the loop running. -/
theorem tracks_parse (fuel : Nat) (pendingBytes : Bytes) (h : t.dispatcher_ = .running) :
    Keeps queue_ (parse pendingBytes fuel) (fun t' _ => Outside t') t := by
  refine Prog.tracks_iterate (fun _ t => t.dispatcher_ = .running) (fun _ t ht => ?_) fuel () t h
  refine Prog.tracks_emit_bind fun next _ => ?_
  cases next with
  | returns parsed => exact ⟨{ t with inParse := false }, rfl, ht, rfl⟩
  | throws e       => exact ⟨{ t with inParse := false }, rfl, trivial⟩
  | calls callback =>
    refine ⟨{ t with inParse := true }, rfl, ?_⟩
    exact (tracks_onCallback (t := { t with inParse := true }) ⟨ht, rfl⟩ callback).bind fun t' _ ht' => ht'

theorem tracks_parsePending (link fuel n : Nat) (pendingBytes : Bytes) (h : Outside t) :
    Keeps queue_ ((surroundings link fuel).parsePending n pendingBytes) (fun t' _ => Outside t') t := by
  refine Prog.tracks_iterate (fun _ t => Outside t) (fun pendingBytes t ht => ?_) n pendingBytes t h
  split
  · exact ht
  · refine (tracks_parse fuel pendingBytes ht.1).bind fun t' parsed ht' => ?_
    split <;> exact ht'

/-- `while (!stopping_ && !broken_)`. -/
theorem tracks_goesOn (link fuel : Nat) (h : Outside t) :
    Keeps queue_ (surroundings link fuel).goesOn (fun t' on => Outside t' ∧ (on = true → t'.broken = false) ∧
      (on = false → t'.mayReturn (.rabbitMq queue_) = true)) t := by
  refine Prog.tracks_emit_bind fun stopping _ => ⟨{ t with stopping := t.stopping || stopping }, rfl, ?_⟩
  split
  · rename_i hstopping
    refine ⟨h, fun hon => ?_, fun _ => ?_⟩
    · cases hon
    · simp [Thread.mayReturn, h.1, hstopping]
  · refine Prog.tracks_emit_bind fun broken hp => ⟨{ t with stopping := t.stopping || stopping }, rfl, h, ?_⟩
    have hbroken : broken = t.broken := hp (by simp)
    cases broken with
    | false => exact ⟨fun _ => hbroken.symm, fun hon => absurd hon (by simp)⟩
    | true  => exact ⟨fun hon => absurd hon (by simp), fun _ => by simp [Thread.mayReturn, h.1, ← hbroken]⟩

theorem tracks_leave (link fuel : Nat) (h : Outside t) (hb : t.broken = false) (error : String) (pendingBytes : Bytes) :
    Keeps queue_ ((surroundings link fuel).leave error pendingBytes) (fun t' r => Sum.elim (fun _ => Outside t')
      (fun _ => t'.mayReturn (.rabbitMq queue_) = true) r) t := by
  refine (tracks_disconnect h.1 (Or.inr hb) error.toList).bind fun t' _ ht' => ?_
  rw [h.2] at ht'
  show t'.mayReturn _ = true
  simp [Thread.mayReturn, ht']

theorem tracks_read (link fuel : Nat) (h : Outside t) (hb : t.broken = false) (pendingBytes : Bytes) :
    Keeps queue_ ((surroundings link fuel).read fuel pendingBytes) (fun t' r => Sum.elim (fun _ => Outside t')
      (fun _ => t'.mayReturn (.rabbitMq queue_) = true) r) t := by
  refine Prog.tracks_emit_bind fun received _ => ⟨t, next_silent rfl, ?_⟩
  cases received with
  | closed      => exact tracks_leave link fuel h hb _ _
  | wouldBlock  => exact h
  | error e     => exact tracks_leave link fuel h hb _ _
  | bytes chunk => exact (tracks_parsePending link fuel fuel _ h).bind fun t' _ ht' => ht'

theorem tracks_run (link fuel : Nat) (h : Outside t) :
    Keeps queue_ (run link fuel) (fun t' _ => t'.mayReturn (.rabbitMq queue_) = true) t := by
  refine Prog.tracks_iterate (fun _ t => Outside t) (fun pendingBytes t ht => ?_) fuel [] t h
  refine (tracks_goesOn link fuel ht).bind fun t on ⟨ht, hbroken, hreturn⟩ => ?_
  split
  · exact hreturn (by simpa using ‹(!on) = true›)
  rename_i hon
  have hb : t.broken = false := hbroken (by simpa using hon)
  have hlost : Keeps queue_ (surroundings link fuel).connectionLost (fun t' _ => t' = t) t := by
    refine Prog.tracks_emit_bind fun connectionError _ => ⟨t, next_silent rfl, ?_⟩
    split
    · exact rfl
    · exact Prog.tracks_emit fun _ _ => ⟨t, next_silent rfl, rfl⟩
  refine hlost.bind fun t' lost heq => ?_
  subst heq
  split
  · exact tracks_leave link fuel ht hb _ _
  refine Prog.tracks_emit_bind fun status _ => ⟨t', next_silent rfl, ?_⟩
  cases status with
  | timeout  => exact ht
  | error    => exact tracks_leave link fuel ht hb _ _
  | readable => exact tracks_read link fuel ht hb _

/-- **The I/O threads of the RabbitMQ client refine the dispatchers of its links**, callbacks included. -/
theorem run_refines (fuel : LinkRef → Nat) {items : List (LinkClient.Item (Option ClientEvent))}
    (hx : LinkClient.Execution (.rabbitMq queue_) ClientEvent.signal (fun l => run l (fuel l)) items) :
    LinkClient.Refines (.rabbitMq queue_) ClientEvent.signal items :=
  hx.refines fun l => tracks_run l (fuel l) ⟨rfl, rfl⟩

end Run

/-! ### A channel error while a reply is awaited -/

section Demo

def demoBefore : List ClientEvent :=
  [.stoppingLoaded false, .brokenLoaded 0 false, .connectionErrorLoaded false, .connectionClosedLoaded false,
    .waitForSocketReadable .readable, .recv (.bytes [1]), .parse [1] (.calls .consuming), .consumerReadyStored]

def demoAfter : List ClientEvent :=
  [.parse [1] (.calls (.channelError none)), .brokenErrorStored "RabbitMQ channel error: ".toList, .brokenStored,
    .pending (.failedAll "RabbitMQ channel error: ".toList), .parse [1] (.returns 1), .stoppingLoaded false,
    .brokenLoaded 0 true]

def demoThread (events : List ClientEvent) : List (LinkClient.Item (Option ClientEvent)) :=
  events.map fun e => .thread 0 (some e)

def demoBegin : List (LinkClient.Item (Option ClientEvent)) := [.other (.currentLink 0), .other (.construct 0 true)]

def demoCall : List (LinkClient.Item (Option ClientEvent)) :=
  [.other (.ready 0 true), .other (.register 0 ['a']), .other (.publish 0), .other (.transmit 0 (.ok true))]

def demoItems : List (LinkClient.Item (Option ClientEvent)) :=
  demoBegin ++ demoThread demoBefore ++ demoCall ++ demoThread demoAfter ++ [.thread 0 none]

theorem demo_runs : (LinkClient.returning (run 0 3)).Runs
    (demoBefore.map some ++ demoAfter.map some ++ [none]) (.done ()) := by
  unfold LinkClient.returning run
  refine Prog.runs_ask.2 ⟨false, rfl, ?_⟩
  refine Prog.runs_ask.2 ⟨false, rfl, ?_⟩
  refine Prog.runs_ask.2 ⟨false, rfl, ?_⟩
  refine Prog.runs_ask.2 ⟨false, rfl, ?_⟩
  refine Prog.runs_ask.2 ⟨.readable, rfl, ?_⟩
  refine Prog.runs_ask.2 ⟨.bytes [1], rfl, ?_⟩
  refine Prog.runs_ask.2 ⟨.calls .consuming, rfl, ?_⟩
  refine Prog.runs_ask.2 ⟨(), rfl, ?_⟩
  refine Prog.runs_ask.2 ⟨.calls (.channelError none), rfl, ?_⟩
  refine Prog.runs_ask.2 ⟨(), rfl, ?_⟩
  refine Prog.runs_ask.2 ⟨(), rfl, ?_⟩
  refine Prog.runs_ask.2 ⟨(), rfl, ?_⟩
  refine Prog.runs_ask.2 ⟨.returns 1, rfl, ?_⟩
  refine Prog.runs_ask.2 ⟨false, rfl, ?_⟩
  refine Prog.runs_ask.2 ⟨true, rfl, ?_⟩
  refine Prog.runs_ask.2 ⟨(), rfl, ?_⟩
  exact ⟨rfl, rfl⟩

theorem demo_joint : LinkClient.Joint (.rabbitMq ['q']) .init (fun _ => {})
    (demoItems.map (LinkClient.Item.map (LinkClient.orReturned ClientEvent.signal))) := by
  refine LinkClient.joint_other rfl id ?_
  refine LinkClient.joint_other rfl id ?_
  iterate 8 refine LinkClient.joint_thread Nat.one_pos (by trivial) rfl ?_
  iterate 4 refine LinkClient.joint_other rfl id ?_
  iterate 8 refine LinkClient.joint_thread Nat.one_pos (by trivial) rfl ?_
  trivial

theorem run_refines_demo : LinkClient.Refines (.rabbitMq ['q']) ClientEvent.signal demoItems := by
  refine run_refines (fun _ => 3) ⟨fun l => ?_, demo_joint⟩
  by_cases hl : 0 = l
  · subst hl
    exact ⟨_, demo_runs⟩
  · have hnone : LinkClient.eventsOf l demoItems = [] := by
      simp [demoItems, demoBegin, demoThread, demoBefore, demoCall, demoAfter, LinkClient.eventsOf, hl]
    rw [hnone]
    exact Prog.runs_nil _

end Demo

end RpcClient
end RabbitMq

namespace ServiceBus

open LinkClient (LinkRef Signal Thread)

/-- What an event of the dispatcher thread is to its link. -/
def ClientEvent.signal : ClientEvent → Signal
  | .stoppingLoaded stopping                      => .stoppingLoaded stopping
  | .waitForIncomingMessage (.throws (.std what)) => .failing (receiverFailed ++ what)
  | .waitForIncomingMessage (.error description)  => .failing (receiverFailed ++ description)
  | .waitForIncomingMessage _                     => .silent
  | .brokenStored                                 => .brokenStored
  | .pending (.failedAll error)                   => .failedAll error
  | .pending (.completed id payload _)            => .completed id payload
  | _                                             => .foreign

section Dispatch

variable {α : Type} {t : Thread}

abbrev Keeps (p : Prog Exn ClientEvent α) (Q : Thread → α → Prop) (t : Thread) : Prop :=
  Thread.Tracks .serviceBus ClientEvent.signal p Q t

/-- The loop runs. -/
def Dispatching (t : Thread) : Prop := t.dispatcher_ = .running ∧ t.inParse = false

theorem tracks_disconnect (h : Dispatching t) {error : Text} (herror : t.error = some error) :
    Keeps (disconnect error) (fun t' _ => t'.dispatcher_ = .exited) t := by
  refine Prog.tracks_emit_bind fun _ _ => ⟨{ t with
    dispatcher_ := .disconnecting error false
    broken := true
    error := none }, ?_, ?_⟩
  · simp [ClientEvent.signal, Thread.next, herror, h.1, h.2]
  · refine Prog.tracks_emit fun _ _ => ⟨{ t with
      dispatcher_ := .exited
      broken := true
      error := none }, ?_, rfl⟩
    simp [ClientEvent.signal, Thread.next]

theorem tracks_leave (h : Dispatching t) {error error' : Text} (herror : error' = error) :
    Keeps (disconnect error >>= fun _ => pure (Sum.inr ()))
      (fun t' (r : Unit ⊕ Unit) => Sum.elim (fun _ => Dispatching t') (fun _ => t'.mayReturn .serviceBus = true) r)
      { t with error := some error' } := by
  have hd : Dispatching { t with error := some error' } := h
  refine (tracks_disconnect hd (congrArg some herror)).bind fun t' _ hexited => ?_
  show t'.mayReturn _ = true
  simp [Thread.mayReturn, hexited]

theorem tracks_handOver (h : Dispatching t) (message : AmqpMessage) :
    Keeps (handOver message) (fun t' _ => t' = t) t := by
  unfold handOver
  split
  · refine Prog.tracks_emit_bind fun found _ => ⟨t, ?_, rfl⟩
    simp [ClientEvent.signal, Thread.next, h.1]
  · exact rfl
  · exact rfl

theorem tracks_dispatchReplies (fuel : Nat) (h : Dispatching t) :
    Keeps (dispatchReplies fuel) (fun t' _ => t'.mayReturn .serviceBus = true) t := by
  refine Prog.tracks_iterate (fun _ t => Dispatching t) (fun _ t ht => ?_) fuel () t h
  refine Prog.tracks_emit_bind fun stopping _ => ⟨{ t with stopping := t.stopping || stopping }, rfl, ?_⟩
  have ht' : Dispatching { t with stopping := t.stopping || stopping } := ht
  split
  · rename_i hstopping
    show Thread.mayReturn _ _ = true
    simp [Thread.mayReturn, ht.1, hstopping]
  refine Prog.tracks_emit_bind fun incoming _ => ?_
  cases incoming with
  | cancelled         => exact ⟨_, rfl, ht'⟩
  | throws e          =>
    cases e with
    | std what => exact ⟨_, rfl, tracks_leave ht' rfl⟩
    | unknown  => exact ⟨_, rfl, trivial⟩
  | error description => exact ⟨_, rfl, tracks_leave ht' rfl⟩
  | nothing           => exact ⟨_, rfl, ht'⟩
  | message m         =>
    refine ⟨_, rfl, (tracks_handOver ht' m).bind fun t' _ heq => ?_⟩
    subst heq
    exact ht'

/-- **The dispatcher threads of the Service Bus client refine the dispatchers of its links.** -/
theorem dispatchReplies_refines (fuel : LinkRef → Nat) {items : List (LinkClient.Item (Option ClientEvent))}
    (hx : LinkClient.Execution .serviceBus ClientEvent.signal (fun l => dispatchReplies (fuel l)) items) :
    LinkClient.Refines .serviceBus ClientEvent.signal items :=
  hx.refines fun l => tracks_dispatchReplies (fuel l) ⟨rfl, rfl⟩

end Dispatch

/-! ### A receiver that fails while a reply is awaited -/

section Demo

def demoFailed : Text := receiverFailed ++ "detached".toList

def demoItems : List (LinkClient.Item (Option ClientEvent)) :=
  [.other (.currentLink 0), .other (.construct 0 true), .thread 0 (some (.stoppingLoaded false)), .other (.ready 0 true),
    .other (.register 0 ['a']), .other (.send 0 (.ok true)),
    .thread 0 (some (.waitForIncomingMessage (.error "detached".toList))), .thread 0 (some .brokenStored),
    .thread 0 (some (.pending (.failedAll demoFailed))), .thread 0 none]

theorem demo_runs : (LinkClient.returning (dispatchReplies 1)).Runs
    [some (.stoppingLoaded false), some (.waitForIncomingMessage (.error "detached".toList)), some .brokenStored,
      some (.pending (.failedAll demoFailed)), none] (.done ()) := by
  unfold LinkClient.returning dispatchReplies
  refine Prog.runs_ask.2 ⟨false, rfl, ?_⟩
  refine Prog.runs_ask.2 ⟨.error "detached".toList, rfl, ?_⟩
  refine Prog.runs_ask.2 ⟨(), rfl, ?_⟩
  refine Prog.runs_ask.2 ⟨(), rfl, ?_⟩
  refine Prog.runs_ask.2 ⟨(), rfl, ?_⟩
  exact ⟨rfl, rfl⟩

theorem demo_joint : LinkClient.Joint .serviceBus .init (fun _ => {})
    (demoItems.map (LinkClient.Item.map (LinkClient.orReturned ClientEvent.signal))) := by
  iterate 2 refine LinkClient.joint_other rfl id ?_
  refine LinkClient.joint_thread Nat.one_pos rfl rfl ?_
  iterate 3 refine LinkClient.joint_other rfl id ?_
  iterate 4 refine LinkClient.joint_thread Nat.one_pos trivial rfl ?_
  trivial

theorem dispatchReplies_refines_demo : LinkClient.Refines .serviceBus ClientEvent.signal demoItems := by
  refine dispatchReplies_refines (fun _ => 1) ⟨fun l => ?_, demo_joint⟩
  by_cases hl : 0 = l
  · subst hl
    exact ⟨_, demo_runs⟩
  · have hnone : LinkClient.eventsOf l demoItems = [] := by
      simp [demoItems, LinkClient.eventsOf, hl]
    rw [hnone]
    exact Prog.runs_nil _

end Demo

end ServiceBus
end Graftcode
