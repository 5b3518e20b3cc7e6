import Graftcode.Monitor
/-!
# PipelineGate — flushing and closing a pipeline from several threads

`force_flush` and `close` of `GraftCodeAppInsightsConnectorPipeline` in Python, Java and .NET: `_closed` is read and set
while `_flush_gate` is held, the providers are flushed under it, and the call that has set it takes the pipeline apart.
Any step may throw.  The hooks of uncaught exceptions and of the process's exit make the same calls.
-/
namespace Graftcode
namespace AppInsights
namespace Gate

open Prog (emit call attempt)
open Monitor (Sectioned Relies Orderly sectionsOf insides outsides flat)

inductive Port where
  | python
  | java
  | dotnet
  deriving DecidableEq

inductive Provider where
  | traces
  | logs
  deriving DecidableEq

/-- A pipeline; .NET has no logger provider where there is nothing to export to. -/
structure Pipeline where
  port : Port
  loggerProvider : Bool := true

def Pipeline.providers (pipeline : Pipeline) : List Provider :=
  if pipeline.port = .dotnet ∧ !pipeline.loggerProvider then [.traces] else [.traces, .logs]

/-- What may be thrown, as the handlers tell it apart. -/
inductive Failure where
  | illegalState
  | exception
  -- of Python, no subclass of `Exception`
  | baseException
  deriving DecidableEq

/-- What is done while the gate is held. -/
inductive GateEvent where
  | readClosed (closed : Bool)
  | flush (provider : Provider) (result : Except Failure Bool)
  | storeClosed

/-- A step of taking a pipeline apart. -/
inductive Cleanup where
  | detachInstrumentation
  | removeLogHandler
  | unregisterExitHook
  | restoreExceptionHooks
  | shutdownTraces
  | shutdownLogs
  -- Java shuts both down at once
  | shutdownSdk
  | disposeActivitySource
  deriving DecidableEq

structure CleanedUp where
  step : Cleanup
  result : Except Failure Unit

def cleanups : Port → List Cleanup
  | .python => [.detachInstrumentation, .removeLogHandler, .unregisterExitHook, .restoreExceptionHooks, .shutdownTraces,
      .shutdownLogs]
  | .java   => [.detachInstrumentation, .unregisterExitHook, .restoreExceptionHooks, .shutdownSdk]
  | .dotnet => [.unregisterExitHook, .restoreExceptionHooks, .shutdownLogs, .shutdownTraces, .disposeActivitySource]

/-- Both are flushed, and true says that both were in time. -/
def flushAll : List Provider → Prog Failure GateEvent Bool
  | []                    => pure true
  | provider :: providers => do
    let flushed ← call (GateEvent.flush provider)
    let others ← flushAll providers
    pure (flushed && others)

def forceFlush (pipeline : Pipeline) : Prog Failure (Monitor.Event GateEvent CleanedUp) Bool :=
  Monitor.guarded do
    let closed ← emit GateEvent.readClosed
    if closed then pure true else flushAll pipeline.providers

/-- The section of `close`; whether the rest of it is to be done. -/
def beginClose (pipeline : Pipeline) : Prog Failure GateEvent Bool := do
  let closed ← emit GateEvent.readClosed
  if closed then pure false
  else do
    let _ ← flushAll pipeline.providers
    emit (fun _ : Unit => GateEvent.storeClosed)
    pure true

/-- What is swallowed when the exit hook is taken out: the process may be going down already. -/
def swallows : Port → Failure → Bool
  | .python, e => e != .baseException
  | .java, e   => e == .illegalState
  | .dotnet, _ => false

def cleanUp (port : Port) (step : Cleanup) : Prog Failure (Monitor.Event GateEvent CleanedUp) Unit :=
  let once := call fun result => Monitor.Event.outside (CleanedUp.mk step result)
  if step = .unregisterExitHook then do
    let _ ← attempt (swallows port) once
    pure ()
  else once

def cleanUpAll (port : Port) : List Cleanup → Prog Failure (Monitor.Event GateEvent CleanedUp) Unit
  | []            => pure ()
  | step :: steps => do
    cleanUp port step
    cleanUpAll port steps

def close (pipeline : Pipeline) : Prog Failure (Monitor.Event GateEvent CleanedUp) Unit := do
  let closing ← Monitor.guarded (beginClose pipeline)
  if closing then cleanUpAll pipeline.port (cleanups pipeline.port) else pure ()

/-- A call; a thread that makes several is several callers. -/
inductive Call where
  | forceFlush
  | close
  deriving DecidableEq

def Call.program (pipeline : Pipeline) : Call → Prog Failure (Monitor.Event GateEvent CleanedUp) Unit
  | .forceFlush => do
    let _ ← Gate.forceFlush pipeline
    pure ()
  | .close      => Gate.close pipeline

/-- `_closed`. -/
def touch (closed : Bool) (_ : Nat) : GateEvent → Option Bool
  | .readClosed read => if read = closed then some closed else none
  | .flush _ _       => some closed
  | .storeClosed     => some true

abbrev Trace := List (Nat × Monitor.Event GateEvent CleanedUp)

/-- The steps of taking the pipeline apart that a trace has come to. -/
def taken (t : Trace) : List Cleanup := (outsides (t.map Prod.snd)).map CleanedUp.step

/-- The providers flushed, each of them without an exception. -/
inductive Flushes : List Provider → List GateEvent → Prop
  | nil : Flushes [] []
  | cons {provider : Provider} {providers : List Provider} {flushed : Bool} {es : List GateEvent} :
      Flushes providers es → Flushes (provider :: providers) (.flush provider (.ok flushed) :: es)

/-- One caller closes the pipeline, which it does when it has found it open and has flushed all of it.  From then on
nothing is flushed, the steps that follow are that caller's, each is taken once, and whoever closes has it closed. -/
structure ClosedOnce (pipeline : Pipeline) (calls : Nat → Call) (t : Trace) : Prop where
  flushed : ∀ before n after, t = before ++ (n, .inside .storeClosed) :: after → ∃ earlier es,
    insides before = earlier ++ (n, .readClosed false) :: es.map (fun e => (n, e)) ∧ Flushes pipeline.providers es
  last : ∀ before n after, t = before ++ (n, .inside .storeClosed) :: after →
    ∀ m e, (m, .inside e) ∈ after → e = .readClosed true
  owned : ∀ before n e after, t = before ++ (n, .outside e) :: after → (n, .inside .storeClosed) ∈ before
  steps : taken t <+: cleanups pipeline.port
  closed : ∀ n, calls n = .close → (Gate.close pipeline).Runs (ofActor n t) (.done ()) →
    ∃ m, (m, .inside .storeClosed) ∈ t ∧ (m = n → taken t = cleanups pipeline.port)

/-! ## One caller -/

section Caller

variable {pipeline : Pipeline} {es fl : List GateEvent} {d : List (List GateEvent)}

/-- A section so far, latest first: it begins with the flag, flushes when that was not set, and sets it last. -/
def Shape (pipeline : Pipeline) : List GateEvent → Prop
  | []                  => True
  | .readClosed _ :: es => es = []
  | .flush _ _ :: es    => ∃ providers fl, es.reverse = .readClosed false :: fl ∧ Flushes providers fl
  | .storeClosed :: es  => ∃ fl, es.reverse = .readClosed false :: fl ∧ Flushes pipeline.providers fl

/-- Whoever takes the pipeline apart has set the flag. -/
def HasClosed (d : List (List GateEvent)) (_ : CleanedUp) : Prop := ∃ es ∈ d, .storeClosed ∈ es

/-- What is done outside follows the list. -/
def InOrder (pipeline : Pipeline) (h : List (Monitor.Event GateEvent CleanedUp))
    (e : Monitor.Event GateEvent CleanedUp) : Prop :=
  ∀ x, e = .outside x → (outsides h).reverse.map CleanedUp.step ++ [x.step] <+: cleanups pipeline.port

/-- What a caller keeps to. -/
def Disciplined (pipeline : Pipeline) (h : List (Monitor.Event GateEvent CleanedUp))
    (e : Monitor.Event GateEvent CleanedUp) : Prop :=
  Sectioned (fun _ es => Shape pipeline es) (fun _ _ => True) HasClosed h e ∧ InOrder pipeline h e

theorem Flushes.concat {providers : List Provider} {provider : Provider} {flushed : Bool} (h : Flushes providers fl) :
    Flushes (providers ++ [provider]) (fl ++ [.flush provider (.ok flushed)]) := by
  induction h with
  | nil         => exact .cons .nil
  | cons _ ih => exact .cons ih

theorem Flushes.not_stored {providers : List Provider} (h : Flushes providers fl) : .storeClosed ∉ fl := by
  induction h with
  | nil       => simp
  | cons _ ih => simpa using ih

/-- A flush goes through the providers that are left, after those that are done. -/
theorem safe_flushAll {R : List GateEvent → GateEvent → Prop} : ∀ (providers : List Provider) {before : List Provider}
    {es fl : List GateEvent}, es.reverse = .readClosed false :: fl → Flushes before fl →
    (flushAll providers).Safe R (fun es e => Shape pipeline (e :: es))
      (fun es' r => ∀ flushed, r = .ok flushed →
        ∃ fl', es'.reverse = .readClosed false :: fl' ∧ Flushes (before ++ providers) fl') es
  | [], _, _, fl, hes, hfl                          => fun _ _ => ⟨fl, hes, by rwa [List.append_nil]⟩
  | provider :: providers, before, es, fl, hes, hfl => by
    rw [flushAll, Prog.safe_bind, Prog.safe_call]
    intro r _
    refine ⟨⟨before, fl, hes, hfl⟩, ?_⟩
    cases r with
    | error e    => exact fun _ h => by cases h
    | ok flushed =>
      have hes' : (GateEvent.flush provider (.ok flushed) :: es).reverse =
          .readClosed false :: (fl ++ [.flush provider (.ok flushed)]) := by
        rw [List.reverse_cons, hes]
        rfl
      rw [Prog.andThen_ok, Prog.safe_bind]
      apply (safe_flushAll providers hes' hfl.concat).mono
      intro es' r hr
      rw [List.append_assoc] at hr
      cases r with
      | error e   => exact fun _ h => by cases h
      | ok others => exact fun _ _ => hr others rfl

theorem safe_forceFlush {R : List GateEvent → GateEvent → Prop}
    {Q : List (Monitor.Event GateEvent CleanedUp) → Except Failure Bool → Prop}
    (hQ : ∀ h r, Q h r) : (forceFlush pipeline).Safe (Relies R)
      (Sectioned (fun _ es => Shape pipeline es) (fun _ _ => True) HasClosed) Q [] := by
  apply Monitor.safe_guarded rfl trivial
  rw [Prog.safe_bind, Prog.safe_emit]
  intro closed _
  refine ⟨rfl, ?_⟩
  rw [Prog.andThen_ok]
  cases closed with
  | true  => exact ⟨trivial, fun _ _ => hQ _ _⟩
  | false => exact (safe_flushAll pipeline.providers rfl .nil).mono fun _ _ _ => ⟨trivial, fun _ _ => hQ _ _⟩

/-- What the section of a `close` comes to. -/
def Begun (es : List GateEvent) (r : Except Failure Bool) : Prop :=
  ∀ closing, r = .ok closing → if closing then .storeClosed ∈ es else es = [.readClosed true]

theorem safe_beginClose {R : List GateEvent → GateEvent → Prop} :
    (beginClose pipeline).Safe R (fun es e => Shape pipeline (e :: es)) Begun [] := by
  unfold beginClose
  rw [Prog.safe_bind, Prog.safe_emit]
  intro closed _
  refine ⟨rfl, ?_⟩
  rw [Prog.andThen_ok]
  cases closed with
  | true  =>
    rintro closing hclosing
    cases hclosing
    rfl
  | false =>
    rw [if_neg Bool.false_ne_true, Prog.safe_bind]
    apply (safe_flushAll pipeline.providers rfl .nil).mono
    intro es r hr
    cases r with
    | error e    => exact fun _ h => by cases h
    | ok flushed =>
      obtain ⟨fl, hes, hfl⟩ := hr flushed rfl
      rw [Prog.andThen_ok, Prog.safe_bind, Prog.safe_emit]
      intro _ _
      refine ⟨⟨fl, hes, hfl⟩, ?_⟩
      rintro closing hclosing
      cases hclosing
      exact List.mem_cons_self

/-- The steps a history has come to. -/
def stepsOf (h : List (Monitor.Event GateEvent CleanedUp)) : List Cleanup := (outsides h).reverse.map CleanedUp.step

variable {h : List (Monitor.Event GateEvent CleanedUp)} {R : List (Monitor.Event GateEvent CleanedUp) →
  Monitor.Event GateEvent CleanedUp → Prop}

theorem stepsOf_outside (e : CleanedUp) : stepsOf (.outside e :: h) = stepsOf h ++ [e.step] := by
  simp [stepsOf, outsides]

/-- One step; it may throw. -/
theorem safe_cleanUp {steps : List Cleanup} (port : Port) (step : Cleanup) (hd : sectionsOf h = ⟨none, d⟩)
    (hclosed : ∃ es ∈ d, .storeClosed ∈ es) (hsteps : stepsOf h ++ step :: steps = cleanups pipeline.port) :
    (cleanUp port step).Safe R (Disciplined pipeline)
      (fun h' _ => sectionsOf h' = ⟨none, d⟩ ∧ stepsOf h' ++ steps = cleanups pipeline.port) h := by
  have hone : (call (fun result => Monitor.Event.outside (CleanedUp.mk step result)) : Prog Failure _ Unit).Safe R
      (Disciplined pipeline)
      (fun h' _ => sectionsOf h' = ⟨none, d⟩ ∧ stepsOf h' ++ steps = cleanups pipeline.port) h := by
    rw [Prog.safe_call]
    intro result _
    refine ⟨⟨⟨by rw [hd], ?_⟩, ?_⟩, ?_, ?_⟩
    · rw [hd]
      exact hclosed
    · rintro x hx
      cases hx
      rw [← hsteps]
      exact ⟨steps, by simp [stepsOf]⟩
    · rw [Monitor.sectionsOf_cons, hd]
      rfl
    · rw [stepsOf_outside, List.append_assoc]
      exact hsteps
  unfold cleanUp
  split
  · rw [Prog.safe_bind, Prog.safe_attempt]
    apply hone.mono
    intro h' r hr
    cases r with
    | ok a    => exact hr
    | error e =>
      rw [Prog.attempted_error]
      split
      · exact hr
      · exact hr
  · exact hone

theorem safe_cleanUpAll (port : Port) : ∀ {steps : List Cleanup} {h : List (Monitor.Event GateEvent CleanedUp)},
    sectionsOf h = ⟨none, d⟩ → (∃ es ∈ d, .storeClosed ∈ es) → stepsOf h ++ steps = cleanups pipeline.port →
    (cleanUpAll port steps).Safe R (Disciplined pipeline)
      (fun h' r => r = .ok () → sectionsOf h' = ⟨none, d⟩ ∧ stepsOf h' = cleanups pipeline.port) h
  | [], h, hd, _, hsteps                 => fun _ => ⟨hd, by rwa [List.append_nil] at hsteps⟩
  | step :: steps, h, hd, hclosed, hsteps => by
    rw [cleanUpAll, Prog.safe_bind]
    apply (safe_cleanUp port step hd hclosed hsteps).mono
    rintro h' r ⟨hd', hsteps'⟩
    cases r with
    | ok a    => exact safe_cleanUpAll port hd' hclosed hsteps'
    | error e => exact fun hr => by cases hr

/-- How a `close` that returns has gone: it has taken everything apart, or has found it closed. -/
def Closed (pipeline : Pipeline) (h : List (Monitor.Event GateEvent CleanedUp)) : Prop :=
  ∃ es, sectionsOf h = ⟨none, [es]⟩ ∧
    (.storeClosed ∈ es ∧ stepsOf h = cleanups pipeline.port ∨ es = [.readClosed true])

theorem safe_close {R : List GateEvent → GateEvent → Prop} : (close pipeline).Safe (Relies R) (Disciplined pipeline)
    (fun h r => r = .ok () → Closed pipeline h) [] := by
  have hsection : (Monitor.guarded (beginClose pipeline) : Prog Failure (Monitor.Event GateEvent CleanedUp) Bool).Safe
      (Relies R) (Sectioned (fun _ es => Shape pipeline es) (fun _ _ => True) HasClosed)
      (fun h r => ∀ closing, r = .ok closing → ∃ es, sectionsOf h = ⟨none, [es]⟩ ∧
        if closing then .storeClosed ∈ es else es = [.readClosed true]) [] := by
    apply Monitor.safe_guarded rfl trivial
    exact safe_beginClose.mono fun es r hr => ⟨trivial, fun h' hh' closing hclosing => ⟨es, hh', hr closing hclosing⟩⟩
  have hnone := (Monitor.keeps_guarded (beginClose pipeline) (R := Relies R) []).preserve
    (P := fun h : List (Monitor.Event GateEvent CleanedUp) => outsides h = [])
    (fun h e he hh => by
      cases e with
      | outside x => exact absurd rfl (he x)
      | _         => exact hh) rfl
  unfold close
  rw [Prog.safe_bind]
  apply ((hsection.and hnone).weaken (fun _ _ hR => hR) _).mono
  · rintro h r ⟨hbegun, hempty, -⟩
    cases r with
    | error e    => exact fun hr => by cases hr
    | ok closing =>
      obtain ⟨es, hd, hes⟩ := hbegun closing rfl
      rw [Prog.andThen_ok]
      cases closing with
      | true  =>
        rw [if_pos rfl] at hes ⊢
        have hfirst : stepsOf h ++ cleanups pipeline.port = cleanups pipeline.port := by
          rw [stepsOf, hempty]
          rfl
        apply (safe_cleanUpAll pipeline.port hd ⟨es, List.mem_singleton_self es, hes⟩ hfirst).mono
        intro h' r hr hok
        exact ⟨es, (hr hok).1, .inl ⟨hes, (hr hok).2⟩⟩
      | false => exact fun _ => ⟨es, hd, .inr hes⟩
  · rintro h e ⟨hG, hnot⟩
    exact ⟨hG, fun x hx => absurd hx (hnot x)⟩

/-- What a caller keeps to, whichever call it makes. -/
theorem safe_program {R : List GateEvent → GateEvent → Prop} (c : Call) : (c.program pipeline).Safe (Relies R)
    (Disciplined pipeline) (fun h r => c = .close → r = .ok () → Closed pipeline h) [] := by
  cases c with
  | close      => exact safe_close.mono fun _ _ hr _ => hr
  | forceFlush =>
    unfold Call.program
    rw [Prog.safe_bind]
    apply (((safe_forceFlush fun _ _ => trivial).and (Monitor.keeps_guarded _ [])).weaken (fun _ _ hR => hR) _).mono
    · intro h r _
      cases r with
      | ok a    => exact fun hc => by cases hc
      | error e => exact fun hc => by cases hc
    · rintro h e ⟨hG, hnot⟩
      exact ⟨hG, fun x hx => absurd hx (hnot x)⟩

end Caller

/-! ## The callers together -/

/-- The flag is set where somebody has set it. -/
theorem replay_closed : ∀ {u : List (Nat × GateEvent)} {closed closed' : Bool}, replay touch closed u = some closed' →
    (closed' = true ↔ closed = true ∨ ∃ n, (n, .storeClosed) ∈ u)
  | [], closed, closed', hr               => by
    cases hr
    simp
  | (n, .readClosed read) :: u, closed, closed', hr => by
    rw [replay, Option.bind_eq_some_iff] at hr
    obtain ⟨closed₁, hread, hr⟩ := hr
    rw [touch, Option.ite_none_right_eq_some, Option.some.injEq] at hread
    rw [replay_closed hr, ← hread.2]
    simp
  | (n, .flush provider result) :: u, closed, closed', hr => by
    rw [replay, Option.bind_eq_some_iff] at hr
    obtain ⟨closed₁, hflush, hr⟩ := hr
    cases hflush
    rw [replay_closed hr]
    simp
  | (n, .storeClosed) :: u, closed, closed', hr => by
    rw [replay, Option.bind_eq_some_iff] at hr
    obtain ⟨closed₁, hstore, hr⟩ := hr
    cases hstore
    rw [replay_closed hr]
    simp

section Together

variable {pipeline : Pipeline} {calls : Nat → Call} {t before after : Trace} {s : Monitor.State Nat Bool}

abbrev Callers (pipeline : Pipeline) (calls : Nat → Call) : Trace → Monitor.State Nat Bool → Prop :=
  Execution (Monitor.step touch) (fun n => (calls n).program pipeline) { shared := false }

theorem safe_sectioned (n : Nat) : ((calls n).program pipeline).Safe (Relies fun _ _ => True)
    (Sectioned (fun _ es => Shape pipeline es) (fun _ _ => True) HasClosed) (fun _ _ => True) [] :=
  ((safe_program (calls n)).weaken (fun _ _ hR => hR) fun _ _ hG => hG.1).mono fun _ _ _ => trivial

/-- What holds at an event: the sections before it have been serial, and the section of the event has a shape. -/
theorem serial_at {n : Nat} {e : Monitor.Event GateEvent CleanedUp} (hx : Callers pipeline calls t s)
    (ht : t = before ++ (n, e) :: after) : ∃ s₁ s₂, Monitor.Serial touch false before s₁ ∧
      Monitor.step touch s₁ n e = some s₂ ∧
      Sectioned (fun _ es => Shape pipeline es) (fun _ _ => True) HasClosed (historiesOf before n) e := by
  obtain ⟨s₁, s₂, horderly, hs, hG⟩ := Monitor.orderly_at (R := fun _ _ => True) (fun _ _ _ _ => trivial)
    safe_sectioned hx ht
  exact ⟨s₁, s₂, horderly.serial, hs, hG⟩

/-- A section that has found the pipeline open has had nobody close it before. -/
theorem not_stored_before {n : Nat} {s₁ : Monitor.State Nat Bool} {es fl : List GateEvent} {providers : List Provider}
    (hserial : Monitor.Serial touch false before s₁)
    (hcurrent : (sectionsOf (historiesOf before n)).current = some es) (hes : es.reverse = .readClosed false :: fl)
    (hfl : Flushes providers fl) :
    ∃ rest, insides before = flat rest ++ (n, .readClosed false) :: fl.map (fun e => (n, e)) ∧
      ∀ m, (m, .inside .storeClosed) ∉ before := by
  obtain ⟨rest, -, hinsides⟩ := hserial.split hcurrent
  rw [hes, List.map_cons] at hinsides
  refine ⟨rest, hinsides, fun m hm => ?_⟩
  have hr := hserial.replays
  rw [hinsides, replay_append, Option.bind_eq_some_iff] at hr
  obtain ⟨closed, hrest, hr⟩ := hr
  rw [replay, Option.bind_eq_some_iff] at hr
  obtain ⟨closed', hread, -⟩ := hr
  rw [touch, Option.ite_none_right_eq_some] at hread
  rw [← Monitor.mem_insides, hinsides, List.mem_append, List.mem_cons] at hm
  rcases hm with hm | hm | hm
  · have hclosed := (replay_closed hrest).2 (.inr ⟨m, hm⟩)
    rw [← hread.1] at hclosed
    cases hclosed
  · cases hm
  · obtain ⟨e, he, heq⟩ := List.mem_map.1 hm
    cases heq
    exact hfl.not_stored he

theorem inside_after_stored {n m : Nat} {e : GateEvent} (hx : Callers pipeline calls t s)
    (ht : t = before ++ (n, .inside .storeClosed) :: after) (hm : (m, .inside e) ∈ after) : e = .readClosed true := by
  obtain ⟨mid, rest, rfl⟩ := List.append_of_mem hm
  have ht' : t = (before ++ (n, .inside .storeClosed) :: mid) ++ (m, .inside e) :: rest := by rw [ht]; simp
  have hstored : (n, .inside .storeClosed) ∈ before ++ (n, .inside .storeClosed) :: mid := by simp
  obtain ⟨s₁, s₂, hserial, hs, es, hcurrent, hshape⟩ := serial_at hx ht'
  cases e with
  | readClosed closed       =>
    have hshared : s₁.shared = true := (replay_closed hserial.replays).2 (.inr ⟨n, Monitor.mem_insides.2 hstored⟩)
    rw [Monitor.step, Option.map_eq_some_iff] at hs
    obtain ⟨closed', hread, -⟩ := hs
    rw [touch, Option.ite_none_right_eq_some, hshared] at hread
    rw [hread.1]
  | flush provider result =>
    obtain ⟨providers, fl, hes, hfl⟩ := hshape
    obtain ⟨-, -, hnone⟩ := not_stored_before hserial hcurrent hes hfl
    exact absurd hstored (hnone n)
  | storeClosed             =>
    obtain ⟨fl, hes, hfl⟩ := hshape
    obtain ⟨-, -, hnone⟩ := not_stored_before hserial hcurrent hes hfl
    exact absurd hstored (hnone n)

theorem stored_unique {n m : Nat} (hx : Callers pipeline calls t s) (hn : (n, .inside .storeClosed) ∈ t)
    (hm : (m, .inside .storeClosed) ∈ t) : n = m := by
  obtain ⟨before, after, ht⟩ := List.append_of_mem hn
  rw [ht, List.mem_append, List.mem_cons] at hm
  rcases hm with hm | hm | hm
  · obtain ⟨before', after', rfl⟩ := List.append_of_mem hm
    have ht' : t = before' ++ (m, .inside .storeClosed) :: (after' ++ (n, .inside .storeClosed) :: after) := by
      rw [ht]
      simp
    have hlater : GateEvent.storeClosed = .readClosed true := inside_after_stored hx ht' (n := m) (m := n) (by simp)
    cases hlater
  · cases hm
    rfl
  · have hlater := inside_after_stored hx ht hm
    cases hlater

theorem stored_of_outside {n : Nat} {e : CleanedUp} (hx : Callers pipeline calls t s)
    (ht : t = before ++ (n, .outside e) :: after) : (n, .inside .storeClosed) ∈ before := by
  obtain ⟨s₁, s₂, hserial, -, -, es, hes, hstored⟩ := serial_at hx ht
  exact hserial.mem_iff.1 ⟨es, List.mem_append_right _ hes, hstored⟩

/-- Whoever has set the flag is the one who takes the pipeline apart. -/
theorem owner {n m : Nat} {e : CleanedUp} (hx : Callers pipeline calls t s) (hn : (n, .inside .storeClosed) ∈ t)
    (hm : (m, .outside e) ∈ t) : m = n := by
  obtain ⟨before, after, ht⟩ := List.append_of_mem hm
  apply stored_unique hx _ hn
  rw [ht]
  exact List.mem_append_left _ (stored_of_outside hx ht)

/-- What one caller alone does outside, the trace has outside. -/
theorem outsides_of_owner {n : Nat} : ∀ {t : Trace}, (∀ m e, (m, .outside e) ∈ t → m = n) →
    outsides (t.map Prod.snd) = outsides (ofActor n t)
  | [], _               => rfl
  | (m, e) :: t, howner => by
    have ih := outsides_of_owner fun m e hm => howner m e (List.mem_cons_of_mem _ hm)
    by_cases hm : m = n
    · subst hm
      rw [ofActor_cons_self, List.map_cons]
      simp only [outsides, List.filterMap_cons] at ih ⊢
      rw [ih]
    · have hskip : ofActor n ((m, e) :: t) = ofActor n t := by simp [ofActor, hm]
      rw [hskip, ← ih]
      cases e with
      | outside e => exact absurd (howner m e List.mem_cons_self) hm
      | _         => rfl

theorem taken_of_owner {n : Nat} (howner : ∀ m e, (m, .outside e) ∈ t → m = n) :
    taken t = stepsOf (historiesOf t n) := by
  rw [taken, outsides_of_owner howner, stepsOf, historiesOf, outsides, outsides, List.filterMap_reverse,
    List.reverse_reverse]

theorem stepsOf_prefix {l : List (Monitor.Event GateEvent CleanedUp)} (hl : Prog.Admits (Disciplined pipeline) [] l) :
    stepsOf l.reverse <+: cleanups pipeline.port := by
  induction l using List.reverseRecOn with
  | nil => exact List.nil_prefix
  | append_singleton l e ih =>
    obtain ⟨hbefore, he, -⟩ := (Prog.admits_append _ l [e] []).1 hl
    rw [List.append_nil] at he
    rw [List.reverse_concat]
    cases e with
    | outside x =>
      rw [stepsOf_outside]
      exact he.2 x rfl
    | _         => exact ih hbefore

/-- **A pipeline is closed once**, whoever flushes or closes it from whichever threads. -/
theorem closed_once (hx : Callers pipeline calls t s) : ClosedOnce pipeline calls t where
  flushed before n after ht := by
    obtain ⟨s₁, s₂, hserial, -, es, hcurrent, fl, hes, hfl⟩ := serial_at hx ht
    obtain ⟨rest, hinsides, -⟩ := not_stored_before hserial hcurrent hes hfl
    exact ⟨flat rest, fl, hinsides, hfl⟩
  last before n after ht m e hm := inside_after_stored hx ht hm
  owned before n e after ht := stored_of_outside hx ht
  steps := by
    by_cases hnone : ∃ n e, (n, .outside e) ∈ t
    · obtain ⟨n, e, hm⟩ := hnone
      obtain ⟨before, after, ht⟩ := List.append_of_mem hm
      have hstored : (n, .inside .storeClosed) ∈ t := by
        rw [ht]
        exact List.mem_append_left _ (stored_of_outside hx ht)
      rw [taken_of_owner fun m e hm => owner hx hstored hm]
      apply stepsOf_prefix
      obtain ⟨o, ho⟩ := hx.runs n
      have hrelies := (Monitor.orderly (R := fun _ _ => True) (fun _ _ _ _ => trivial) safe_sectioned hx).2 n
      exact (safe_program (calls n)).admits ho hrelies
    · have hnil : taken t = [] := by
        rw [taken, List.map_eq_nil_iff, outsides, List.filterMap_eq_nil_iff]
        intro e he
        obtain ⟨⟨n, e⟩, hm, rfl⟩ := List.mem_map.1 he
        cases e with
        | outside e => exact absurd ⟨n, e, hm⟩ hnone
        | _         => rfl
      rw [hnil]
      exact List.nil_prefix
  closed n hclose hdone := by
    obtain ⟨horderly, hrelies⟩ := Monitor.orderly (R := fun _ _ => True) (fun _ _ _ _ => trivial) safe_sectioned hx
    have hserial := horderly.serial
    have hclosed : Closed pipeline (historiesOf t n) := by
      have hpost := safe_close.post hdone (hrelies n) rfl
      rwa [List.append_nil] at hpost
    obtain ⟨es, hsections, ⟨hstored, hsteps⟩ | rfl⟩ := hclosed
    · have hmem : (n, .inside .storeClosed) ∈ t :=
        hserial.mem_iff.1 ⟨es, by rw [hsections]; exact List.mem_singleton_self es, hstored⟩
      refine ⟨n, hmem, fun _ => ?_⟩
      rw [taken_of_owner fun m e hm => owner hx hmem hm, hsteps]
    · -- the flag was set already, and not by this call
      have hread : (n, .inside (.readClosed true)) ∈ t :=
        hserial.mem_iff.1
          ⟨[.readClosed true], by rw [hsections]; exact List.mem_singleton_self _, List.mem_singleton_self _⟩
      obtain ⟨before, after, ht⟩ := List.append_of_mem hread
      obtain ⟨s₁, s₂, hserial₁, hs, -⟩ := serial_at hx ht
      rw [Monitor.step, Option.map_eq_some_iff] at hs
      obtain ⟨closed, hread', -⟩ := hs
      rw [touch, Option.ite_none_right_eq_some] at hread'
      rcases (replay_closed hserial₁.replays).1 hread'.1.symm with hstart | ⟨m, hm⟩
      · cases hstart
      · have hmem : (m, .inside .storeClosed) ∈ t := by
          rw [ht]
          exact List.mem_append_left _ (Monitor.mem_insides.1 hm)
        refine ⟨m, hmem, ?_⟩
        rintro rfl
        obtain ⟨es, hes, hstored⟩ := hserial.mem_iff.2 hmem
        rw [hsections] at hes
        obtain rfl := List.mem_singleton.1 hes
        cases List.mem_singleton.1 hstored

end Together

/-! ## A close while a flush waits -/

def demoPipeline : Pipeline := { port := .python }

def demoCalls (n : Nat) : Call := if n = 0 then .close else .forceFlush

/-- The flush comes to the gate when the pipeline has been closed. -/
def demoTrace : Trace :=
  [(0, .acquire), (0, .inside (.readClosed false)), (0, .inside (.flush .traces (.ok true))),
    (0, .inside (.flush .logs (.ok false))), (0, .inside .storeClosed), (0, .release), (1, .acquire),
    (0, .outside ⟨.detachInstrumentation, .ok ()⟩), (1, .inside (.readClosed true)), (1, .release),
    (0, .outside ⟨.removeLogHandler, .ok ()⟩), (0, .outside ⟨.unregisterExitHook, .error .exception⟩),
    (0, .outside ⟨.restoreExceptionHooks, .ok ()⟩), (0, .outside ⟨.shutdownTraces, .ok ()⟩),
    (0, .outside ⟨.shutdownLogs, .ok ()⟩)]

theorem demoTrace_callers : Callers demoPipeline demoCalls demoTrace { shared := true } := by
  refine ⟨rfl, fun n => ?_⟩
  match n with
  | 0 =>
    refine ⟨.done (), Prog.runs_ask.2 ⟨(), rfl, Prog.runs_ask.2 ⟨false, rfl, Prog.runs_ask.2 ⟨.ok true, rfl,
      Prog.runs_ask.2 ⟨.ok false, rfl, Prog.runs_ask.2 ⟨(), rfl, Prog.runs_ask.2 ⟨(), rfl, ?_⟩⟩⟩⟩⟩⟩⟩
    exact Prog.runs_ask.2 ⟨.ok (), rfl, Prog.runs_ask.2 ⟨.ok (), rfl, Prog.runs_ask.2 ⟨.error .exception, rfl,
      Prog.runs_ask.2 ⟨.ok (), rfl, Prog.runs_ask.2 ⟨.ok (), rfl, Prog.runs_ask.2 ⟨.ok (), rfl, rfl, rfl⟩⟩⟩⟩⟩⟩
  | 1 => exact ⟨.done (), Prog.runs_ask.2 ⟨(), rfl, Prog.runs_ask.2 ⟨true, rfl, Prog.runs_ask.2 ⟨(), rfl, rfl, rfl⟩⟩⟩⟩
  | n + 2 => exact ⟨.cut, Prog.runs_ask_cut _ _⟩

theorem closed_once_demo : ClosedOnce demoPipeline demoCalls demoTrace := closed_once demoTrace_callers

end Gate
end AppInsights
end Graftcode
