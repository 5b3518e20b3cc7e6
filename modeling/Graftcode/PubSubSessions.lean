import Graftcode.Erasure
import Graftcode.Leases
import Graftcode.PubSubClient
/-!
# PubSubSessions — the sessions that the calls of a client share

`AcquireSession` and `ReleaseSession` of `PubSubClient.cpp`: every use of a session by a call is a lease on the stack of
idle ones.  The programs of `PubSubClient` are what is seen of these (`shown`), so what holds of them holds here too.
The session of the dispatcher is its own.
-/
namespace Graftcode
namespace PubSub

open Leases (lease Leasing)
open PendingReplies (withTicket)
open Prog (emit attempt forEach Erases)

/-- What is done through a session, and what is done without one. -/
abbrev PoolEvent := Leases.Event Error Event Event

/-- `EnsureStarted`. -/
def ensureStartedLeasing (config : PubSubConfig) : Prog Error PoolEvent Unit := do
  let started ← (emit Event.startedLoaded).under Leases.Event.outside
  if started then pure ()
  else
    let started ← (emit Event.startedLoaded).under Leases.Event.outside
    if started then pure ()
    else
      lease (createResources config)
      (do if config.oneWay then pure () else Prog.call Event.newSession
          emit fun _ : Unit => Event.startedStored : Prog Error Event Unit).under Leases.Event.outside

def awaitReplyLeasing (config : PubSubConfig) (data : Bytes) (correlationId : Text) (fuel : Nat) :
    Prog Error PoolEvent Bytes :=
  withTicket (Leases.Event.outside ∘ Event.pending) (.exn ∘ .std) correlationId
    (lease (publishRequestLoop config data (requestAttributes config correlationId) fuel)) (waited config correlationId)

/-- `Call`. -/
def callLeasing (config : PubSubConfig) (data : Option Bytes) (size : Nat) (fuel : Nat) : Prog Error PoolEvent Bytes :=
  if maxPayloadBytes < size then Prog.throw tooLarge
  else if 0 < size ∧ data = none then Prog.throw nullPayload
  else do
    ensureStartedLeasing config
    let correlationId ← (emit Event.newCorrelationId).under Leases.Event.outside
    if config.oneWay then do
      lease (publishRequestLoop config (payloadOf data size) (requestAttributes config correlationId) fuel)
      pure []
    else awaitReplyLeasing config (payloadOf data size) correlationId fuel

/-- What an application thread asks for. -/
structure Request where
  data : Option Bytes
  size : Nat

/-- A thread of the application; a call that throws does not keep it from the next one. -/
def caller {Ev : Type} (call : Request → Prog Error Ev Bytes) (requests : List Request) : Prog Error Ev Unit :=
  forEach (fun request => (attempt (fun _ => true) (call request)).bind fun _ => Prog.pure true) requests

/-! ## Without the sessions -/

/-- What is seen of an event when sessions are not told apart. -/
def shown : PoolEvent → Option Event
  | .popped r  => r.map fun _ => .acquireSession (.ok ())
  | .made r    => some (.acquireSession (r.map fun _ => ()))
  | .used _ e  => some e
  | .pushed _  => none
  | .dropped _ => none
  | .outside e => some e

variable {α : Type} {config : PubSubConfig}

theorem erases_outside (p : Prog Error Event α) : Erases shown (p.under Leases.Event.outside) p := by
  apply Prog.erases_under
  exact fun _ => rfl

theorem erases_used (r : Nat) (p : Prog Error Event α) : Erases shown (p.under (Leases.Event.used r)) p := by
  apply Prog.erases_under
  exact fun _ => rfl

/-- A lease is seen as its acquisition, and what is done under it. -/
theorem erases_lease (body : Prog Error Event α) :
    Erases shown (lease body) ((Prog.call Event.acquireSession).bind fun _ => body) := by
  have hbody : ∀ r, Erases shown
      (((body.under (Leases.Event.used r)).tryCatch fun e =>
        (emit fun _ : Unit => Leases.Event.dropped r).bind fun _ => Prog.throw e).bind fun a =>
          (emit fun _ : Unit => Leases.Event.pushed r).bind fun _ => Prog.pure a : Prog Error PoolEvent α) body := by
    intro r
    have hdropped : shown (.dropped r) = none := rfl
    have hpushed : shown (.pushed r) = none := rfl
    exact (erases_used r body).finally hdropped hpushed
  intro r
  cases r with
  | some r =>
    refine ⟨_, _, _, .ok (), rfl, rfl, ?_⟩
    exact hbody r
  | none   =>
    intro r
    cases r with
    | ok r    =>
      refine ⟨_, _, _, .ok (), rfl, rfl, ?_⟩
      exact hbody r
    | error e =>
      refine ⟨_, _, _, .error e, rfl, rfl, ?_⟩
      exact rfl

/-- A lease with what follows it. -/
theorem erases_lease_bind {β : Type} (body : Prog Error Event α) {k : α → Prog Error PoolEvent β}
    {k' : α → Prog Error Event β} (hk : ∀ a, Erases shown (k a) (k' a)) :
    Erases shown ((lease body).bind k) ((Prog.call Event.acquireSession).bind fun _ => body.bind k') := by
  have h := Erases.bind hk (erases_lease body)
  rwa [Prog.bind_assoc] at h

theorem erases_ensureStarted : Erases shown (ensureStartedLeasing config) (ensureStarted config) := by
  apply Erases.bind _ (erases_outside _)
  intro started
  cases started with
  | true  => exact rfl
  | false =>
    apply Erases.bind _ (erases_outside _)
    intro started
    cases started with
    | true  => exact rfl
    | false => exact erases_lease_bind _ fun _ => erases_outside _

theorem erases_awaitReply (data : Bytes) (correlationId : Text) (fuel : Nat) :
    Erases shown (awaitReplyLeasing config data correlationId fuel) (awaitReply config data correlationId fuel) := by
  apply PendingReplies.erases_withTicket
  · exact fun _ => rfl
  · exact erases_lease _

/-- **The call of `PubSubClient`** is what is seen of a call that takes its sessions from the stack. -/
theorem erases_callClient (data : Option Bytes) (size fuel : Nat) :
    Erases shown (callLeasing config data size fuel) (callClient config data size fuel) := by
  unfold callLeasing callClient
  split
  · exact Prog.erases_throw _
  split
  · exact Prog.erases_throw _
  apply Erases.bind _ erases_ensureStarted
  intro _
  apply Erases.bind _ (erases_outside _)
  intro correlationId
  split
  · exact Erases.bind (fun _ => Prog.erases_pure []) (erases_lease _)
  · exact erases_awaitReply _ _ _

theorem erases_caller {call : Request → Prog Error PoolEvent Bytes} {call' : Request → Prog Error Event Bytes}
    (h : ∀ request, Erases shown (call request) (call' request)) (requests : List Request) :
    Erases shown (caller call requests) (caller call' requests) := by
  apply Prog.erases_forEach
  intro request
  exact Erases.bind (fun _ => Prog.erases_pure true) (Erases.attempt (h request) _)

/-! ## What a call keeps to -/

theorem leasing_ensureStarted : Leasing (ensureStartedLeasing config) := by
  apply (Leases.leasing_outside _).bind
  intro started
  cases started with
  | true  => exact Leases.leasing_pure ()
  | false =>
    apply (Leases.leasing_outside _).bind
    intro started
    cases started with
    | true  => exact Leases.leasing_pure ()
    | false => exact (Leases.leasing_lease _).bind fun _ => Leases.leasing_outside _

theorem leasing_awaitReply (data : Bytes) (correlationId : Text) (fuel : Nat) :
    Leasing (awaitReplyLeasing config data correlationId fuel) := by
  have hdestroy : Leasing (PendingReplies.destroyTicket (Leases.Event.outside ∘ Event.pending) :
      Prog Error PoolEvent Unit) := Leases.leasing_emit _
  apply ((Leases.leasing_emit _).bind fun _ => Leases.leasing_ofExcept _).bind
  intro slot
  apply Leasing.bind
  · apply ((Leases.leasing_lease _).bind fun _ => ?_).tryCatch
    · exact fun e => hdestroy.bind fun _ => Leases.leasing_throw e
    · exact (Leases.leasing_emit _).bind fun _ => Leases.leasing_ofExcept _
  · exact fun response => hdestroy.bind fun _ => Leases.leasing_pure response

theorem leasing_call (data : Option Bytes) (size fuel : Nat) : Leasing (callLeasing config data size fuel) := by
  unfold callLeasing
  split
  · exact Leases.leasing_throw _
  split
  · exact Leases.leasing_throw _
  apply leasing_ensureStarted.bind
  intro _
  apply (Leases.leasing_outside _).bind
  intro correlationId
  split
  · exact (Leases.leasing_lease _).bind fun _ => Leases.leasing_pure []
  · exact leasing_awaitReply _ _ _

theorem leasing_caller {call : Request → Prog Error PoolEvent Bytes} (h : ∀ request, Leasing (call request))
    (requests : List Request) : Leasing (caller call requests) := by
  apply Leases.leasing_forEach
  intro request
  exact ((h request).attempt _).bind fun _ => Leases.leasing_pure true

/-! ## The calls of a client -/

section Calls

variable {Caller : Type} [DecidableEq Caller]

/-- The callers of one client; the stack is empty at first. -/
def SharesSessions (config : PubSubConfig) (fuel : Nat) (requests : Caller → List Request)
    (t : List (Caller × PoolEvent)) (s : Leases.State) : Prop :=
  Graftcode.Execution Leases.step
    (fun c => caller (fun request => callLeasing config request.data request.size fuel) (requests c)) {} t s

variable [Fintype Caller] {fuel : Nat} {requests : Caller → List Request} {t : List (Caller × PoolEvent)}
  {s : Leases.State}

/-- **Sessions are never shared and never lost**, however the calls of a client interleave: between the requests that
two callers send through a session the first one gave it back; no more sessions are made than there are callers and
sessions dropped by failed calls; once all calls are over, every other one is idle; and without the sessions each caller
is one of `PubSubClient`. -/
theorem sessions_pooled (hx : SharesSessions config fuel requests t s) :
    (∀ before a r e mid b e' after, t = before ++ (a, .used r e) :: (mid ++ (b, .used r e') :: after) → a ≠ b →
      (a, .pushed r) ∈ mid) ∧
    s.made ≤ Fintype.card Caller + (Leases.gone t).length ∧
    ((∀ c, (caller (fun request => callLeasing config request.data request.size fuel) (requests c)).Runs
      (ofActor c t) (.done ())) → s.idle.length + (Leases.gone t).length = s.made) ∧
    ∀ c, ∃ o, (caller (fun request => callClient config request.data request.size fuel) (requests c)).Runs
      ((ofActor c t).filterMap shown) o := by
  have hprog : ∀ c, Leasing
      (caller (fun request => callLeasing config request.data request.size fuel) (requests c)) :=
    fun c => leasing_caller (fun request => leasing_call _ _ _) _
  have hlent : Leases.Lent t s := Leases.execution_lent hprog hx
  refine ⟨?_, hlent.made_le, ?_, ?_⟩
  · intro before a r e mid b e' after ht hab
    exact Leases.handed_over hprog hx ht hab
  · intro hdone
    exact hlent.all_back fun c => Leases.phases_done hprog (hdone c)
  · intro c
    obtain ⟨o, ho⟩ := hx.runs c
    obtain ⟨o', ho', -⟩ := (erases_caller (fun request => erases_callClient _ _ _) _).runs ho
    exact ⟨o', ho'⟩

end Calls

/-! ### Two callers, one session -/

section Demo

def oneWayClient : PubSubConfig where
  projectId := "demo".toList
  requestTopic := "requests".toList
  oneWay := true

/-- The one request of each caller. -/
def demoRequests : Bool → List Request := fun _ => [⟨some [7], 1⟩]

/-- A publish of `[7]` through session 0. -/
def demoPublish (correlationId : Text) : PoolEvent :=
  .used 0 (.request (publishRequest oneWayClient oneWayClient.requestTopic [7]
    (requestAttributes oneWayClient correlationId)) (.ok { status := 200 }))

/-- The first caller starts the client, up to its publish. -/
def demoFirst : List PoolEvent :=
  [.outside (.startedLoaded false), .outside (.startedLoaded false), .popped none, .made (.ok 0), .pushed 0,
    .outside .startedStored, .outside (.newCorrelationId ['a']), .popped (some 0)]

/-- The second caller is there before the session is back. -/
def demoBetween : List (Bool × PoolEvent) :=
  [(false, .outside (.startedLoaded true)), (false, .outside (.newCorrelationId ['b'])), (true, .pushed 0),
    (false, .popped (some 0))]

def demoSessions : List (Bool × PoolEvent) :=
  demoFirst.map (Prod.mk true) ++
    (true, demoPublish ['a']) :: (demoBetween ++ (false, demoPublish ['b']) :: [(false, .pushed 0)])

theorem demoSessions_done (c : Bool) :
    (caller (fun request => callLeasing oneWayClient request.data request.size 1) (demoRequests c)).Runs
      (ofActor c demoSessions) (.done ()) := by
  cases c with
  | true  =>
    change Prog.Runs _ (demoFirst ++ [demoPublish ['a'], .pushed 0]) _
    refine Prog.runs_ask.2 ⟨false, rfl, ?_⟩
    refine Prog.runs_ask.2 ⟨false, rfl, ?_⟩
    refine Prog.runs_ask.2 ⟨none, rfl, ?_⟩
    refine Prog.runs_ask.2 ⟨.ok 0, rfl, ?_⟩
    refine Prog.runs_ask.2 ⟨(), rfl, ?_⟩
    refine Prog.runs_ask.2 ⟨(), rfl, ?_⟩
    refine Prog.runs_ask.2 ⟨['a'], rfl, ?_⟩
    refine Prog.runs_ask.2 ⟨some 0, rfl, ?_⟩
    refine Prog.runs_ask.2 ⟨.ok { status := 200 }, rfl, ?_⟩
    refine Prog.runs_ask.2 ⟨(), rfl, ?_⟩
    exact ⟨rfl, rfl⟩
  | false =>
    change Prog.Runs _ [.outside (.startedLoaded true), .outside (.newCorrelationId ['b']), .popped (some 0),
      demoPublish ['b'], .pushed 0] _
    refine Prog.runs_ask.2 ⟨true, rfl, ?_⟩
    refine Prog.runs_ask.2 ⟨['b'], rfl, ?_⟩
    refine Prog.runs_ask.2 ⟨some 0, rfl, ?_⟩
    refine Prog.runs_ask.2 ⟨.ok { status := 200 }, rfl, ?_⟩
    refine Prog.runs_ask.2 ⟨(), rfl, ?_⟩
    exact ⟨rfl, rfl⟩

theorem demoSessions_shares : SharesSessions oneWayClient 1 demoRequests demoSessions ⟨[0], 1⟩ where
  replays := rfl
  runs c := ⟨_, demoSessions_done c⟩

theorem sessions_pooled_demo :
    (true, .pushed 0) ∈ demoBetween ∧ 1 ≤ Fintype.card Bool + (Leases.gone demoSessions).length ∧
      [0].length + (Leases.gone demoSessions).length = 1 := by
  obtain ⟨hhanded, hmade, hback, -⟩ := sessions_pooled demoSessions_shares
  exact ⟨hhanded _ _ _ _ _ _ _ _ rfl Bool.false_ne_true.symm, hmade, hback demoSessions_done⟩

end Demo

end PubSub
end Graftcode
