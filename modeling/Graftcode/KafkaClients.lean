import Graftcode.Executions
import Graftcode.KafkaClient
import Graftcode.KafkaServerWorker
import Graftcode.PendingReplies
/-!
# KafkaClients — clients that share a reply topic

Any number of `KafkaClient`s, each with any number of calls, its dispatcher and its destructor, over one reply topic.
Each client has a consumer group of its own, so a consume may hand it any record of the topic, in any order and any
number of times.
-/
namespace Graftcode
namespace Kafka
namespace Clients

open Prog (emit call)
open Worker (Thread)

inductive Actor where
  | broker
  | call (client n : Nat)
  | dispatcher (client : Nat)
  | destructor (client : Nat)
  deriving DecidableEq

def Actor.client : Actor → Option Nat
  | .broker       => none
  | .call c _     => some c
  | .dispatcher c => some c
  | .destructor c => some c

deriving instance DecidableEq for Record

/-- The members that the threads of a client share; a ticket of `pending_` is placed in the call that has it. -/
structure Client where
  started : Bool := false
  startLocked : Bool := false
  dispatcher : Thread := .absent
  stopping : Bool := false
  pending : PendingReplies.State Nat := .init

/-- The clients, and the records published to the reply topic. -/
structure System where
  clients : Nat → Client := fun _ => {}
  topic : List Record := []

/-- A section of `PendingReplies`, when it answers what the event says. -/
def section_ (k : Client) (action : PendingReplies.Action Nat) (e : PendingReplies.Event) : Option Client :=
  (PendingReplies.step k.pending action).bind fun r => if r.2 = e then some { k with pending := r.1 } else none

/-- A consume hands over a record of the topic. -/
def consumes (k : Client) (topic : List Record) : Consumed → Option Client
  | .record record => if record ∈ topic then some k else none
  | _              => some k

/-- What an event of a call does to its client; correlation ids are UUIDs, so never empty. -/
def callEffect (k : Client) (topic : List Record) (n : Nat) : ClientEvent → Option Client
  | .startedLoaded started           => if started = k.started then some k else none
  | .lockStart                       => if k.startLocked then none else some { k with startLocked := true }
  | .unlockStart                     => some { k with startLocked := false }
  | .createProducer _                => some k
  | .createConsumer _                => some k
  | .subscribe _ _                   => some k
  | .beforeWarmDeadline _            => some k
  | .consume consumed                => consumes k topic consumed
  | .startDispatcher (.ok ())        => some { k with dispatcher := .running }
  | .startDispatcher (.error _)      => some k
  | .startedStored                   => some { k with started := true }
  | .newCorrelationId id             => if id = [] then none else some k
  | .produce _ _ _ _ _               => some k
  | .pending (.registered id slot)   => section_ k (.register n id) (.registered id slot)
  | .pending (.refused id error)     => section_ k (.register n id) (.refused id error)
  | .pending (.waited slot result)   => section_ k (.wait n) (.waited slot result)
  | .pending .destroyed              => section_ k (.destroy n) .destroyed
  | _                                => none

def dispatcherEffect (k : Client) (topic : List Record) : ClientEvent → Option Client
  | .stoppingLoaded stopping               =>
    if k.dispatcher = .running ∧ stopping = k.stopping then some k else none
  | .deliveryReport _                      => some k
  | .consume consumed                      => consumes k topic consumed
  | .pending (.completed id payload found) => section_ k (.complete id payload) (.completed id payload found)
  | .pending (.failed id error found)      => section_ k (.fail id error) (.failed id error found)
  | .exit                                  => some { k with dispatcher := .exited }
  | _                                      => none

def destructorEffect (k : Client) : ClientEvent → Option Client
  | .stoppingStored                   => some { k with stopping := true }
  | .dispatcherJoined                 => if k.dispatcher = .running then none else some k
  | .pending (.closed error)          => section_ k (.close error) (.closed error)
  | .pending (.failed id error found) => section_ k (.fail id error) (.failed id error found)
  | .deliveryReport _                 => some k
  | _                                 => none

def System.put (s : System) (c : Nat) (k : Client) : System := { s with clients := Function.update s.clients c k }

@[simp] theorem System.put_self (s : System) (c : Nat) (k : Client) : (s.put c k).clients c = k :=
  Function.update_self ..

theorem System.put_of_ne {s : System} {c c' : Nat} {k : Client} (hc : c' ≠ c) :
    (s.put c k).clients c' = s.clients c' := Function.update_of_ne hc ..

def step (s : System) : Actor → ClientEvent → Option System
  | .broker, .publish record => some { s with topic := record :: s.topic }
  | .broker, _               => none
  | .call c n, e             => (callEffect (s.clients c) s.topic n e).map (s.put c)
  | .dispatcher c, e         => (dispatcherEffect (s.clients c) s.topic e).map (s.put c)
  | .destructor c, e         => (destructorEffect (s.clients c) e).map (s.put c)

/-- The configuration of every client, and what every call is given. -/
structure Deployment where
  config : Nat → KafkaClientConfig
  data : Nat → Nat → Option Bytes
  len : Nat → Nat → Nat

/-- The broker publishes records as long as it is observed. -/
def broker (fuel : Nat) : Prog Exn ClientEvent Unit :=
  Prog.iterate (fun _ : Unit => do
    let _ ← emit ClientEvent.publish
    pure (.inl ())) fuel ()

def Deployment.call (D : Deployment) (fuel c n : Nat) : Prog Exn ClientEvent Bytes :=
  callClient (D.config c) (D.data c n) (D.len c n) fuel

def Deployment.program (D : Deployment) (fuel : Nat) : Actor → Prog Exn ClientEvent Unit
  | .broker       => broker fuel
  | .call c n     => do
    let _ ← D.call fuel c n
    pure ()
  | .dispatcher _ => dispatcher fuel
  | .destructor _ => destroyClient fuel

/-- The ticket a call has. -/
def ticketOf : List ClientEvent → Option (Text × PendingReplies.SlotRef)
  | []                                => none
  | .pending (.registered id slot) :: _ => some (id, slot)
  | .pending .destroyed :: _          => none
  | _ :: h                            => ticketOf h

/-! ## What a call keeps to -/

/-- The call is between taking `startMutex_` and letting it go. -/
def Holding : List ClientEvent → Prop
  | []                => False
  | .lockStart :: _   => True
  | .unlockStart :: _ => False
  | _ :: h            => Holding h

/-- Under the mutex it has read `started_` false, and not set it yet. -/
def Starting : List ClientEvent → Prop
  | []                          => False
  | .lockStart :: _             => False
  | .unlockStart :: _           => False
  | .startedLoaded started :: h => started = false ∧ Holding h
  | .startedStored :: _         => False
  | _ :: h                      => Starting h

/-- It has seen `started_` set, or set it. -/
def Past (h : List ClientEvent) : Prop := .startedLoaded true ∈ h ∨ .startedStored ∈ h

/-- It has not come to `PendingReplies` yet. -/
def Fresh (h : List ClientEvent) : Prop := ∀ e, .pending e ∉ h

/-- It has this ticket, for an id it made itself, and has not waited. -/
structure Registered (id : Text) (slot : PendingReplies.SlotRef) (h : List ClientEvent) : Prop where
  ticket : ticketOf h = some (id, slot)
  own : .newCorrelationId id ∈ h
  unwaited : ∀ slot' r, .pending (.waited slot' r) ∉ h

def CallDiscipline (h : List ClientEvent) : ClientEvent → Prop
  | .consume _                  => Starting h
  | .startedStored              => Starting h
  | .unlockStart                => Holding h
  | .pending (.registered id _) => Past h ∧ .newCorrelationId id ∈ h
  | .pending (.waited slot _)   => ∃ id, Registered id slot h
  | _                           => True

/-- A call that returns bytes has waited for them with its ticket. -/
def Answered (h : List ClientEvent) (r : Except Exn Bytes) : Prop :=
  ∀ bytes, r = .ok bytes → ∃ id slot later earlier,
    h = later ++ .pending (.waited slot (.returned bytes)) :: earlier ∧ Registered id slot earlier

theorem Starting.holding : ∀ {h : List ClientEvent}, Starting h → Holding h
  | e :: h, hs => by
    cases e <;> first | exact hs.elim | exact hs.2 | exact Starting.holding (h := h) hs

theorem Fresh.cons {h : List ClientEvent} (hf : Fresh h) {e : ClientEvent} (he : ∀ ev, e ≠ .pending ev) :
    Fresh (e :: h) := by
  intro ev hm
  rcases List.mem_cons.1 hm with heq | hm
  · exact he ev heq.symm
  · exact hf ev hm

theorem Past.cons {h : List ClientEvent} (hp : Past h) (e : ClientEvent) : Past (e :: h) :=
  hp.imp (List.mem_cons_of_mem e) (List.mem_cons_of_mem e)

theorem Past.of_cons {h : List ClientEvent} {e : ClientEvent} (hp : Past (e :: h)) (hloaded : e ≠ .startedLoaded true)
    (hstored : e ≠ .startedStored) : Past h :=
  hp.imp (fun hm => (List.mem_cons.1 hm).resolve_left hloaded.symm)
    fun hm => (List.mem_cons.1 hm).resolve_left hstored.symm

theorem Registered.cons {id : Text} {slot : PendingReplies.SlotRef} {h : List ClientEvent} (hr : Registered id slot h)
    {e : ClientEvent} (he : ∀ ev, e ≠ .pending ev) : Registered id slot (e :: h) where
  ticket := by
    have hskip : ticketOf (e :: h) = ticketOf h := by
      cases e with
      | pending ev => exact absurd rfl (he ev)
      | _ => rfl
    rw [hskip]
    exact hr.ticket
  own := List.mem_cons_of_mem e hr.own
  unwaited slot' r hm := by
    rcases List.mem_cons.1 hm with heq | hm
    · exact he _ heq.symm
    · exact hr.unwaited slot' r hm

section Calls

variable {fuel : Nat} {config : KafkaClientConfig} {h : List ClientEvent}

/-- Nothing but the start has happened, and it is not over. -/
abbrev Begun (h : List ClientEvent) : Prop := Starting h ∧ Fresh h

/-- What the section under the mutex leaves behind. -/
abbrev Started (h : List ClientEvent) (r : Except Exn Unit) : Prop := Holding h ∧ Fresh h ∧ (r = .ok () → Past h)

abbrev EnsuredStarted (h : List ClientEvent) (r : Except Exn Unit) : Prop := Fresh h ∧ (r = .ok () → Past h)

theorem safe_warmUp (hb : Begun h) :
    (warmUp fuel).Safe (fun _ _ => True) CallDiscipline (fun h' _ => Begun h') h := by
  refine Prog.safe_iterate (fun _ h => Begun h) (fun _ h hh => ?_) fuel () h hb
  rw [Prog.safe_bind, Prog.safe_emit]
  intro before _
  refine ⟨trivial, ?_⟩
  rw [Prog.andThen_ok]
  have hbefore : Begun (.beforeWarmDeadline before :: h) := ⟨hh.1, hh.2.cons nofun⟩
  cases before with
  | false => exact hbefore
  | true =>
    simp only [Bool.not_true, Bool.false_eq_true, if_false]
    rw [Prog.safe_bind, Prog.safe_emit]
    intro consumed _
    refine ⟨hbefore.1, ?_⟩
    have hconsumed : Begun (.consume consumed :: .beforeWarmDeadline true :: h) := ⟨hbefore.1, hbefore.2.cons nofun⟩
    cases consumed <;> exact hconsumed

/-- A creation of the start, and what comes after it. -/
theorem safe_creation {ev : Except Exn Unit → ClientEvent} {f : Unit → Prog Exn ClientEvent Unit}
    (hev : ∀ r h, Begun h → CallDiscipline h (ev r) ∧ Begun (ev r :: h))
    (hf : ∀ h, Begun h → (f ()).Safe (fun _ _ => True) CallDiscipline Started h) (hb : Begun h) :
    (call ev >>= f).Safe (fun _ _ => True) CallDiscipline Started h := by
  rw [Prog.safe_bind, Prog.safe_call]
  intro r _
  obtain ⟨hG, hb'⟩ := hev r h hb
  refine ⟨hG, ?_⟩
  cases r with
  | ok _ => exact hf _ hb'
  | error e => exact ⟨hb'.1.holding, hb'.2, nofun⟩

theorem safe_subscribeReplies (topic : Text) (hb : Begun h) :
    (subscribeReplies topic).Safe (fun _ _ => True) CallDiscipline (fun h' _ => Begun h') h := by
  rw [subscribeReplies, Prog.safe_bind, Prog.safe_emit]
  intro error _
  refine ⟨trivial, ?_⟩
  have hsubscribed : Begun (.subscribe topic error :: h) := ⟨hb.1, hb.2.cons nofun⟩
  cases error <;> exact hsubscribed

theorem safe_startLocked (hh : Holding h) (hf : Fresh h) :
    (startLocked config fuel).Safe (fun _ _ => True) CallDiscipline Started h := by
  rw [startLocked, Prog.safe_bind, Prog.safe_emit]
  intro started _
  refine ⟨trivial, ?_⟩
  rw [Prog.andThen_ok]
  cases started with
  | true => exact ⟨hh, hf.cons nofun, fun _ => .inl List.mem_cons_self⟩
  | false =>
    have hread : Begun (.startedLoaded false :: h) := ⟨⟨rfl, hh⟩, hf.cons nofun⟩
    simp only [Bool.false_eq_true, if_false]
    refine safe_creation (fun r h hb => ⟨trivial, hb.1, hb.2.cons nofun⟩) (fun h hb => ?_) hread
    refine safe_creation (fun r h hb => ⟨trivial, hb.1, hb.2.cons nofun⟩) (fun h hb => ?_) hb
    rw [Prog.safe_bind]
    refine (safe_subscribeReplies config.replyTopic hb).mono fun h r hb => ?_
    cases r with
    | error e => exact ⟨hb.1.holding, hb.2, nofun⟩
    | ok _ =>
      rw [Prog.andThen_ok, Prog.safe_bind]
      refine (safe_warmUp hb).mono fun h r hb => ?_
      cases r with
      | error e => exact ⟨hb.1.holding, hb.2, nofun⟩
      | ok _ =>
        refine safe_creation (fun r h hb => ⟨trivial, hb.1, hb.2.cons nofun⟩) (fun h hb => ?_) hb
        rw [Prog.safe_emit]
        exact fun _ _ => ⟨hb.1, hb.1.holding, hb.2.cons nofun, fun _ => .inr List.mem_cons_self⟩

theorem safe_ensureStarted (hf : Fresh h) :
    (ensureStarted config fuel).Safe (fun _ _ => True) CallDiscipline EnsuredStarted h := by
  rw [ensureStarted, Prog.safe_bind, Prog.safe_emit]
  intro started _
  refine ⟨trivial, ?_⟩
  rw [Prog.andThen_ok]
  have hread : Fresh (.startedLoaded started :: h) := hf.cons nofun
  cases started with
  | true => exact ⟨hread, fun _ => .inl List.mem_cons_self⟩
  | false =>
    simp only [Bool.false_eq_true, if_false]
    rw [Prog.safe_bind, Prog.safe_emit]
    intro _ _
    refine ⟨trivial, ?_⟩
    rw [Prog.andThen_ok, Prog.safe_bind, Prog.safe_tryCatch]
    have hheld : Holding (.lockStart :: .startedLoaded false :: h) := trivial
    have hlocked : Fresh (.lockStart :: .startedLoaded false :: h) := hread.cons nofun
    refine (safe_startLocked hheld hlocked).mono fun h' r hr => ?_
    obtain ⟨hholding, hfresh, hpast⟩ := hr
    cases r with
    | error e =>
      rw [Prog.orElse_error, Prog.safe_bind, Prog.safe_emit]
      exact fun _ _ => ⟨hholding, hfresh.cons nofun, nofun⟩
    | ok _ =>
      rw [Prog.orElse_ok, Prog.andThen_ok, Prog.safe_emit]
      exact fun _ _ => ⟨hholding, hfresh.cons nofun, fun _ => (hpast rfl).cons _⟩

theorem safe_produce (payload : Bytes) {id : Text} {slot : PendingReplies.SlotRef} (hr : Registered id slot h) :
    (produce config id payload).Safe (fun _ _ => True) CallDiscipline (fun h' _ => Registered id slot h') h := by
  rw [produce, Prog.safe_bind, Prog.safe_emit]
  intro error _
  refine ⟨trivial, ?_⟩
  have hproduced : Registered id slot (.produce config.requestTopic (makeRpcHeaders id config.replyTopic) payload id
    error :: h) := hr.cons nofun
  cases error <;> exact hproduced

theorem safe_awaitReply (payload : Bytes) {id : Text} (hp : Past h) (hid : .newCorrelationId id ∈ h) (hf : Fresh h) :
    (awaitReply config payload id).Safe (fun _ _ => True) CallDiscipline Answered h := by
  refine PendingReplies.safe_withTicket_of (P := fun slot h => Registered id slot h) ?_ ?_ ?_ ?_ ?_ ?_ ?_
  · exact fun _ => trivial
  · exact fun _ => ⟨hp, hid⟩
  · intro slot
    refine safe_produce payload ⟨rfl, List.mem_cons_of_mem _ hid, fun slot' r hm => ?_⟩
    rcases List.mem_cons.1 hm with heq | hm
    · cases heq
    · exact hf _ hm
  · exact fun _ _ _ hr => ⟨id, hr⟩
  · exact fun _ => trivial
  · exact fun _ _ _ heq => by cases heq
  · intro slot h result bytes hr hw bytes' heq
    cases heq
    rw [PendingReplies.waitedOr_eq_ok hw]
    exact ⟨id, slot, [.pending .destroyed], h, rfl, hr⟩

theorem safe_callClient (data : Option Bytes) (len : Nat) :
    (callClient config data len fuel).Safe (fun _ _ => True) CallDiscipline Answered [] := by
  unfold callClient
  split
  · exact nofun
  · have hfresh : Fresh [] := fun e hm => by cases hm
    rw [Prog.safe_bind]
    refine (safe_ensureStarted hfresh).mono fun h r hr => ?_
    obtain ⟨hf, hpast⟩ := hr
    cases r with
    | error e => exact nofun
    | ok _ =>
      rw [Prog.andThen_ok, Prog.safe_bind, Prog.safe_emit]
      intro id _
      refine ⟨trivial, ?_⟩
      exact safe_awaitReply _ ((hpast rfl).cons _) List.mem_cons_self (hf.cons nofun)

end Calls

/-! ## What a dispatcher keeps to -/

/-- The record with a correlation id that the dispatcher has just been given. -/
def handed : List ClientEvent → Option Record
  | .consume (.record record) :: _ => if (correlationIdOf record).isEmpty then none else some record
  | _                              => none

/-- It completes the record it has been given next, and no other. -/
structure DispatcherDiscipline (h : List ClientEvent) (e : ClientEvent) : Prop where
  completes : ∀ record, handed h = some record →
    ∃ found, e = .pending (.completed (correlationIdOf record) record.payload found)
  given : ∀ id payload found, e = .pending (.completed id payload found) →
    ∃ record, handed h = some record ∧ correlationIdOf record = id ∧ record.payload = payload

theorem DispatcherDiscipline.of_idle {h : List ClientEvent} {e : ClientEvent} (hn : handed h = none)
    (he : ∀ id payload found, e ≠ .pending (.completed id payload found)) : DispatcherDiscipline h e where
  completes record hr := by
    rw [hn] at hr
    cases hr
  given id payload found heq := absurd heq (he id payload found)

theorem mem_of_handed {h : List ClientEvent} {record : Record} (hr : handed h = some record) :
    .consume (.record record) ∈ h := by
  unfold handed at hr
  split at hr
  · split at hr
    · cases hr
    · cases hr
      exact List.mem_cons_self
  · cases hr

section Dispatcher

variable {fuel : Nat} {h : List ClientEvent}

theorem safe_drCb (report : DeliveryReport) (hn : handed h = none) :
    (drCb report).Safe (fun _ _ => True) DispatcherDiscipline (fun h' _ => handed h' = none) h := by
  unfold drCb
  split
  · rw [fail, Prog.safe_bind, Prog.safe_emit]
    exact fun _ _ => ⟨.of_idle hn nofun, rfl⟩
  · exact hn

theorem safe_poll (hn : handed h = none) :
    (poll fuel).Safe (fun _ _ => True) DispatcherDiscipline (fun h' _ => handed h' = none) h := by
  refine Prog.safe_iterate (fun _ h => handed h = none) (fun _ h hn => ?_) fuel () h hn
  rw [Prog.safe_bind, Prog.safe_emit]
  intro report _
  refine ⟨.of_idle hn nofun, ?_⟩
  rw [Prog.andThen_ok]
  have hreport : handed (.deliveryReport report :: h) = none := rfl
  cases report with
  | none => exact hreport
  | some report =>
    simp only
    rw [Prog.safe_bind]
    refine (safe_drCb report hreport).mono fun h' r hr => ?_
    cases r <;> exact hr

theorem safe_dispatchRecord (record : Record) :
    (dispatchRecord record).Safe (fun _ _ => True) DispatcherDiscipline (fun h' _ => handed h' = none)
      (.consume (.record record) :: h) := by
  unfold dispatchRecord
  by_cases hid : (correlationIdOf record).isEmpty
  · rw [if_pos hid, Prog.safe_pure, handed, if_pos hid]
  · have hgiven : handed (.consume (.record record) :: h) = some record := by rw [handed, if_neg hid]
    rw [if_neg hid, complete, Prog.safe_bind, Prog.safe_emit]
    intro found _
    refine ⟨⟨fun record' hr => ?_, fun id payload found' heq => ?_⟩, rfl⟩
    · rw [hgiven] at hr
      cases hr
      exact ⟨found, rfl⟩
    · cases heq
      exact ⟨record, hgiven, rfl, rfl⟩

theorem safe_dispatchReplies (hn : handed h = none) :
    (dispatchReplies fuel).Safe (fun _ _ => True) DispatcherDiscipline (fun h' _ => handed h' = none) h := by
  refine Prog.safe_iterate (fun _ h => handed h = none) (fun _ h hn => ?_) fuel () h hn
  rw [Prog.safe_bind, Prog.safe_emit]
  intro stopping _
  refine ⟨.of_idle hn nofun, ?_⟩
  rw [Prog.andThen_ok]
  have hread : handed (.stoppingLoaded stopping :: h) = none := rfl
  cases stopping with
  | true => exact hread
  | false =>
    simp only [Bool.false_eq_true, if_false]
    rw [Prog.safe_bind]
    refine (safe_poll hread).mono fun h' r hr => ?_
    cases r with
    | error e => exact hr
    | ok _ =>
      rw [Prog.andThen_ok, Prog.safe_bind, Prog.safe_emit]
      intro consumed _
      refine ⟨.of_idle hr nofun, ?_⟩
      rw [Prog.andThen_ok]
      cases consumed with
      | record record =>
        simp only
        rw [Prog.safe_bind]
        refine (safe_dispatchRecord record).mono fun h'' r hr' => ?_
        cases r <;> exact hr'
      | _ => rfl

theorem safe_dispatcher :
    (dispatcher fuel).Safe (fun _ _ => True) DispatcherDiscipline (fun _ _ => True) [] := by
  rw [dispatcher, Prog.safe_bind]
  refine (safe_dispatchReplies rfl).mono fun h r hn => ?_
  cases r with
  | error e => trivial
  | ok _ =>
    rw [Prog.andThen_ok, Prog.safe_emit]
    exact fun _ _ => ⟨.of_idle hn nofun, trivial⟩

end Dispatcher

def discipline : Actor → List ClientEvent → ClientEvent → Prop
  | .broker       => fun _ _ => True
  | .call _ _     => CallDiscipline
  | .dispatcher _ => DispatcherDiscipline
  | .destructor _ => fun _ _ => True

theorem safe_program (D : Deployment) (fuel : Nat) (a : Actor) :
    (D.program fuel a).Safe (fun _ _ => True) (discipline a) (fun _ _ => True) [] := by
  cases a with
  | broker => exact Prog.safe_true _ _
  | call c n =>
    rw [Deployment.program, Prog.safe_bind]
    refine (safe_callClient (D.data c n) (D.len c n)).mono fun h r _ => ?_
    cases r <;> trivial
  | dispatcher c => exact safe_dispatcher
  | destructor c => exact Prog.safe_true _ _

end Clients
end Kafka
end Graftcode
