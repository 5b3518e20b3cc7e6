import Graftcode.PubSubServer
import Graftcode.ServerLifecycle
import Graftcode.SqsServer
/-!
# SqsPubSubLifecycle — the SQS and the Pub/Sub gateway under start, stop and configure

`configure`, `start` and `stop` of `SqsServer.cpp` and `PubSubServer.cpp`.  The client of an SQS run only matters for how
soon a receive comes back; the section that publishes it reads the stop flag.  The session of a Pub/Sub run is followed
by whether it is there.
-/
namespace Graftcode

open Prog (emit call ofExcept attempt iterate)
open Lifecycle (Operation State Steady Sound)

namespace Sqs

deriving instance DecidableEq for SqsConfig

inductive RunEvent where
  | server (event : Event)
  | publishClient (stop : Bool)

/-- The configuration, and whether there is a callback. -/
abbrev Settings := SqsConfig × Bool

/-- `start` between the section that sets `running_` and the one that clears it. -/
def run (sdk : Sdk) (fuel : Nat) (settings : Settings) : Prog Exn RunEvent Unit :=
  (do
    ofExcept ((validateServerConfig settings.1).mapError Exn.std)
    if settings.2 then pure () else Prog.throw notConfigured
    (call Event.createClient).under RunEvent.server
    let _ ← emit RunEvent.publishClient
    (receive sdk settings.1 fuel).under RunEvent.server).tryCatch fun _ => pure ()

def RunEvent.reads : RunEvent → Option Bool
  | .server (.stopRequested stop) => some stop
  | .publishClient stop           => some stop
  | _                             => none

/-- A call; `parsed` is what `ParseSqsConfigSource` has come to. -/
inductive Call where
  | start
  | stop
  | configure (parsed : Except Exn SqsConfig) (processMessage : Bool)

/-- `configure` up to its section under the mutex. -/
def validated (parsed : Except Exn SqsConfig) (processMessage : Bool) : Except Exn Settings := do
  if !processMessage then throw (.std "SQS server: processMessage callback is required".toList)
  let config ← parsed
  (validateServerConfig config).mapError Exn.std
  pure (config, true)

def Call.operation : Call → Operation Exn Settings
  | .start                           => .start
  | .stop                            => .stop
  | .configure parsed processMessage => .configure (validated parsed processMessage)

def cannotConfigure : Exn := .std "SQS server: cannot configure while running".toList

def program (sdk : Sdk) (fuel : Nat) (calls : Nat → Call) (n : Nat) :
    Prog Exn (Lifecycle.Event RunEvent Settings) Unit :=
  (calls n).operation.program (run sdk fuel) cannotConfigure

theorem safe_run (sdk : Sdk) (fuel : Nat) (settings : Settings) :
    (run sdk fuel settings).Safe (Steady RunEvent.reads) (fun _ _ => True) (fun _ r => r = .ok ()) [] :=
  Prog.Safe.swallow (Prog.safe_true _ [])

end Sqs

namespace PubSub

deriving instance DecidableEq for PubSubConfig

/-- An event of the server, or the use of a session that is not there. -/
inductive RunEvent where
  | server (event : Event)
  | missingSession

abbrev Settings := PubSubConfig × Bool

/-- The first `while` of `start`; whether there is a session after it. -/
def setUpSession (config : PubSubConfig) (fuel : Nat) : Prog Error Event Bool :=
  iterate (fun _ : Unit => do
    let stop ← emit Event.stopRequested
    if stop then pure (.inr false)
    else
      let session ← attempt Error.isStd (openSession config)
      match session with
      | some () => pure (.inr true)
      | none    => pure (.inl ())) fuel ()

/-- The second `while`, which takes the session to be there. -/
def receiveFrom (session : Bool) (parse : Text → Option Json) (config : PubSubConfig) (fuel : Nat) :
    Prog Error RunEvent Unit :=
  iterate (fun _ : Unit => do
    let stop ← emit fun stop => RunEvent.server (.stopRequested stop)
    if stop then pure (.inr ())
    else if !session then do
      emit (fun _ : Unit => RunEvent.missingSession)
      pure (.inr ())
    else
      let _ ← (attempt Error.isStd
        (pull parse config config.requestSubscription 1 >>= handleBatch config)).under RunEvent.server
      pure (.inl ())) fuel ()

/-- `start` between the section that sets `running_` and the one that clears it. -/
def run (parse : Text → Option Json) (fuel fuel' : Nat) (settings : Settings) : Prog Error RunEvent Unit :=
  (do
    ofExcept ((validateServerConfig settings.1).mapError fun what => Error.exn (.std what))
    if settings.2 then pure () else Prog.throw notConfigured
    let session ← (setUpSession settings.1 fuel).under RunEvent.server
    receiveFrom session parse settings.1 fuel').tryCatch fun _ => pure ()

def RunEvent.reads : RunEvent → Option Bool
  | .server (.stopRequested stop) => some stop
  | _                             => none

/-- A call; `parsed` is what `ParsePubSubConfigSource` and `ApplyRuntimeEnvironment` have come to. -/
inductive Call where
  | start
  | stop
  | configure (parsed : Except Error PubSubConfig) (processMessage : Bool)

/-- `configure` up to its section under the mutex. -/
def validated (parsed : Except Error PubSubConfig) (processMessage : Bool) : Except Error Settings := do
  if !processMessage then throw (.exn (.std "Pub/Sub server: processMessage callback is required".toList))
  let config ← parsed
  (validateServerConfig config).mapError fun what => Error.exn (.std what)
  pure (config, true)

def Call.operation : Call → Lifecycle.Operation Error Settings
  | .start                           => .start
  | .stop                            => .stop
  | .configure parsed processMessage => .configure (validated parsed processMessage)

def cannotConfigure : Error := .exn (.std "Pub/Sub server: cannot configure while running".toList)

def program (parse : Text → Option Json) (fuel fuel' : Nat) (calls : Nat → Call) (n : Nat) :
    Prog Error (Lifecycle.Event RunEvent Settings) Unit :=
  (calls n).operation.program (run parse fuel fuel') cannotConfigure

/-! ## The session -/

/-- Apart from what it says of the session, this is the `setUp` of the receive loop. -/
theorem setUp_eq (config : PubSubConfig) (fuel : Nat) :
    setUp config fuel = (setUpSession config fuel).bind fun _ => Prog.pure () := by
  unfold setUp setUpSession
  rw [Prog.iterate_bind_pure]
  congr 1
  funext _
  refine (congrArg (Prog.bind (emit Event.stopRequested)) (funext fun stop => ?_)).trans (Prog.bind_assoc _ _ _).symm
  cases stop with
  | true => rfl
  | false =>
    refine (congrArg (Prog.bind (attempt Error.isStd (openSession config))) (funext fun session => ?_)).trans
      (Prog.bind_assoc _ _ _).symm
    cases session <;> rfl

/-- With its session there, this is the `receive` of the receive loop. -/
theorem receiveFrom_true (parse : Text → Option Json) (config : PubSubConfig) (fuel : Nat) :
    receiveFrom true parse config fuel = (receive parse config fuel).under RunEvent.server := by
  unfold receiveFrom receive
  rw [Prog.under_iterate]
  congr 1
  funext _
  refine (congrArg (Prog.bind (emit fun stop => RunEvent.server (.stopRequested stop))) (funext fun stop => ?_)).trans
    (Prog.under_bind _ _ (emit Event.stopRequested)).symm
  cases stop with
  | true => rfl
  | false =>
    rw [if_neg Bool.false_ne_true, if_neg Bool.false_ne_true, Bool.not_true, if_neg Bool.false_ne_true]
    exact (Prog.under_bind RunEvent.server (fun _ => Prog.pure (Sum.inl ())) (attempt Error.isStd
      (pull parse config config.requestSubscription 1 >>= handleBatch config))).symm

/-- Without a session the flag has been read set. -/
def SessionOrStop (h : List Event) (r : Except Error Bool) : Prop :=
  r = .ok false → Event.stopRequested true ∈ h

theorem safe_setUpSession (config : PubSubConfig) (fuel : Nat) (R : List Event → Event → Prop) (h : List Event) :
    (setUpSession config fuel).Safe R (fun _ _ => True) SessionOrStop h := by
  refine Prog.safe_iterate (fun _ _ => True) (fun _ h _ => ?_) fuel () h trivial
  rw [Prog.safe_bind, Prog.safe_emit]
  intro stop _
  refine ⟨trivial, ?_⟩
  rw [Prog.andThen_ok]
  cases stop with
  | true => exact fun _ => List.mem_cons_self
  | false =>
    rw [if_neg Bool.false_ne_true, Prog.safe_bind]
    refine (Prog.safe_true _ _).mono fun h' r _ => ?_
    match r with
    | .error e => exact nofun
    | .ok none => trivial
    | .ok (some ()) => exact nofun

/-- There is a session, or the run has read the stop flag set. -/
def HasSession (session : Bool) (h : List RunEvent) : Prop :=
  session = false → RunEvent.server (.stopRequested true) ∈ h

theorem safe_receiveFrom {session : Bool} {parse : Text → Option Json} {config : PubSubConfig} {fuel : Nat}
    {h : List RunEvent} (hh : HasSession session h) :
    Prog.Keeps (Steady RunEvent.reads) (fun _ e => e ≠ .missingSession) (receiveFrom session parse config fuel) h := by
  refine Prog.safe_iterate (fun _ h => HasSession session h) (fun _ h hh => ?_) fuel () h hh
  rw [Prog.safe_bind, Prog.safe_emit]
  intro stop hR
  refine ⟨nofun, ?_⟩
  rw [Prog.andThen_ok]
  cases stop with
  | true => trivial
  | false =>
    have hsession : session = true := by
      by_contra hs
      exact hR _ (hh (by simpa using hs)) rfl rfl
    subst hsession
    simp only [Bool.false_eq_true, if_false, Bool.not_true]
    rw [Prog.safe_bind, Prog.safe_under]
    refine ((Prog.safe_true _ []).weaken (fun _ _ hs => hs) fun _ _ _ => nofun).mono fun h' r _ => ?_
    cases r with
    | ok a => exact fun hs => by cases hs
    | error e => trivial

/-- **A run never uses a session that is not there**, as long as the flag it has read set stays set. -/
theorem safe_run (parse : Text → Option Json) (fuel fuel' : Nat) (settings : Settings) :
    (run parse fuel fuel' settings).Safe (Steady RunEvent.reads) (fun _ e => e ≠ .missingSession)
      (fun _ r => r = .ok ()) [] := by
  apply Prog.Safe.swallow
  rw [Prog.Keeps, Prog.safe_bind, Prog.safe_ofExcept]
  cases (validateServerConfig settings.1).mapError fun what => Error.exn (.std what) with
  | error e => trivial
  | ok _ =>
    cases settings.2 with
    | false => trivial
    | true =>
      have hsession := safe_setUpSession settings.1 fuel
        (fun h e => Steady RunEvent.reads (h.map .server ++ []) (.server e)) []
      rw [Prog.andThen_ok, if_pos rfl, Prog.safe_bind, Prog.safe_under]
      refine (hsession.weaken (fun _ _ hs => hs) fun _ _ _ hmissing => by cases hmissing).mono fun h r hr => ?_
      cases r with
      | error e => trivial
      | ok session =>
        refine safe_receiveFrom fun hs => ?_
        rw [List.append_nil]
        exact List.mem_map_of_mem (hr (by rw [hs]))

end PubSub

/-- **The lifecycle of the SQS and the Pub/Sub gateway**, over every interleaving of start, stop and configure. -/
theorem lifecycles_sound :
    (∀ (sdk : Sqs.Sdk) (fuel : Nat) (calls : Nat → Sqs.Call) (settings : Sqs.Settings) t s,
      Execution (Lifecycle.step Sqs.RunEvent.reads) (Sqs.program sdk fuel calls) { config := settings } t s →
        Sound Sqs.RunEvent.reads (Sqs.run sdk fuel) { config := settings } t s) ∧
      ∀ (parse : Text → Option Json) (fuel fuel' : Nat) (calls : Nat → PubSub.Call) (settings : PubSub.Settings) t s,
        Execution (Lifecycle.step PubSub.RunEvent.reads) (PubSub.program parse fuel fuel' calls) { config := settings }
          t s →
        Sound PubSub.RunEvent.reads (PubSub.run parse fuel fuel') { config := settings } t s ∧
          ∀ n, (n, .body .missingSession) ∉ t := by
  constructor
  · intro sdk fuel calls settings t s hx
    exact Lifecycle.sound_of_execution (Sqs.safe_run sdk fuel) hx
  · intro parse fuel fuel' calls settings t s hx
    refine ⟨Lifecycle.sound_of_execution (PubSub.safe_run parse fuel fuel') hx, fun n hm => ?_⟩
    obtain ⟨h, hne⟩ := Lifecycle.body_of_execution (PubSub.safe_run parse fuel fuel') hx hm
    exact hne rfl

/-! ## A stop that comes before the run has its configuration -/

/-- What the run of call 0 does is `work`; call 1 stops it. -/
def stoppedTrace {Ev Config : Type} (settings : Config) (work : List Ev) : List (Nat × Lifecycle.Event Ev Config) :=
  [(0, .enter true), (1, .requestStop), (0, .copyConfig settings)] ++ work.map (fun event => (0, .body event)) ++
    [(0, .leave), (1, .passWait)]

namespace Sqs

def demoSettings : Settings := ({ requestQueueUrl := ['q'] }, true)

def demoWork : List RunEvent := [.server (.createClient (.ok ())), .publishClient true, .server (.stopRequested true)]

def demoCalls (n : Nat) : Call := if n = 0 then .start else .stop

theorem stopped_execution (sdk : Sdk) : ∃ s, Execution (Lifecycle.step RunEvent.reads) (program sdk 1 demoCalls)
    { config := demoSettings } (stoppedTrace demoSettings demoWork) s := by
  refine ⟨_, rfl, fun n => ?_⟩
  match n with
  | 0 =>
    refine ⟨.done (), Prog.runs_ask.2 ⟨true, rfl, Prog.runs_ask.2 ⟨demoSettings, rfl, ?_⟩⟩⟩
    exact Prog.runs_ask.2 ⟨.ok (), rfl, Prog.runs_ask.2 ⟨true, rfl, Prog.runs_ask.2 ⟨true, rfl,
      Prog.runs_ask.2 ⟨(), rfl, rfl, rfl⟩⟩⟩⟩
  | 1 => exact ⟨.done (), Prog.runs_ask.2 ⟨(), rfl, Prog.runs_ask.2 ⟨(), rfl, rfl, rfl⟩⟩⟩
  | n + 2 => exact ⟨.cut, Prog.runs_ask_cut _ _⟩

end Sqs

namespace PubSub

def demoSettings : Settings :=
  ({ projectId := ['p'], requestTopic := ['t', 'o', 'p'], requestSubscription := ['s', 'u', 'b'] }, true)

/-- The run has no session and does not receive. -/
def demoWork : List RunEvent := [.server (.stopRequested true), .server (.stopRequested true)]

def demoCalls (n : Nat) : Call := if n = 0 then .start else .stop

theorem stopped_execution (parse : Text → Option Json) : ∃ s, Graftcode.Execution (Lifecycle.step RunEvent.reads)
    (program parse 1 1 demoCalls) { config := demoSettings } (stoppedTrace demoSettings demoWork) s := by
  refine ⟨_, rfl, fun n => ?_⟩
  match n with
  | 0 =>
    refine ⟨.done (), Prog.runs_ask.2 ⟨true, rfl, Prog.runs_ask.2 ⟨demoSettings, rfl, ?_⟩⟩⟩
    exact Prog.runs_ask.2 ⟨true, rfl, Prog.runs_ask.2 ⟨true, rfl, Prog.runs_ask.2 ⟨(), rfl, rfl, rfl⟩⟩⟩
  | 1 => exact ⟨.done (), Prog.runs_ask.2 ⟨(), rfl, Prog.runs_ask.2 ⟨(), rfl, rfl, rfl⟩⟩⟩
  | n + 2 => exact ⟨.cut, Prog.runs_ask_cut _ _⟩

end PubSub

theorem lifecycles_sound_demo :
    (∃ s, Sound Sqs.RunEvent.reads (Sqs.run { base64Encode := fun _ => [], base64Decode := fun _ => [] } 1)
      { config := Sqs.demoSettings } (stoppedTrace Sqs.demoSettings Sqs.demoWork) s) ∧
      ∃ s, Sound PubSub.RunEvent.reads (PubSub.run (fun _ => none) 1 1) { config := PubSub.demoSettings }
        (stoppedTrace PubSub.demoSettings PubSub.demoWork) s ∧
          ∀ n, (n, .body .missingSession) ∉ stoppedTrace PubSub.demoSettings PubSub.demoWork := by
  constructor
  · obtain ⟨s, hx⟩ := Sqs.stopped_execution { base64Encode := fun _ => [], base64Decode := fun _ => [] }
    exact ⟨s, lifecycles_sound.1 _ 1 Sqs.demoCalls Sqs.demoSettings _ s hx⟩
  · obtain ⟨s, hx⟩ := PubSub.stopped_execution fun _ => none
    exact ⟨s, lifecycles_sound.2 _ 1 1 PubSub.demoCalls PubSub.demoSettings _ s hx⟩

end Graftcode
