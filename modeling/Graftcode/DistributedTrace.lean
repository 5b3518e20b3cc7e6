import Graftcode.IncomingTrace
import Graftcode.Instrumentation
import Graftcode.TraceState
/-!
# DistributedTrace — the spans of calls that are handled elsewhere

A call is invoked on one thread and handled on another, of a process with a port and a tracer of its own, where it makes
calls in turn.  It is handled with the headers its connection has once the invocation has started.  `Sdk` is the tracing
SDK of a process: the W3C propagator, and what makes a span under a parent.
-/
namespace Graftcode

/-- There are finitely many headers. -/
def Headers.Finite (headers : Headers) : Prop := ∃ names : List Text, ∀ name, headers name ≠ none → name ∈ names

/-- Hexadecimal digits of this number, and not all of them zero. -/
def IsId (length : Nat) (id : Text) : Prop :=
  id.length = length ∧ id.all Tracing.isLowerHex = true ∧ id.all (· == '0') = false

instance (length : Nat) (id : Text) : Decidable (IsId length id) := by
  unfold IsId
  infer_instance

/-- The ids and flags are of the W3C format. -/
structure SpanContext.WellFormed (context : SpanContext) : Prop where
  valid : context.isValid = true
  traceId : IsId 32 context.traceId
  spanId : IsId 16 context.spanId
  traceFlags : context.traceFlags.length = 2 ∧ context.traceFlags.all Tracing.isLowerHex = true

namespace Tracing

/-! ## The processes -/

/-- The parent that the port's start finds in the headers. -/
def Port.parent : Port → W3cReader → HeaderMap → Option SpanContext → Parent
  | python => Python.start
  | java   => Java.start
  | dotnet => DotNet.start

structure Sdk extends W3cReader where
  inject : Propagator
  /-- The context of a new span, and whether it records, by its parent and how many came before it. -/
  child : SpanContext → Nat → SpanContext × Bool
  root : Nat → SpanContext × Bool
  /-- A parent in a trace, with a span id of its own. -/
  madeUp : Text → Nat → SpanContext

/-- The propagator reads what it writes, and a span belongs to the trace of its parent. -/
structure Sdk.Standard (sdk : Sdk) : Prop where
  propagates : Propagates sdk.inject
  parse_traceParent : ∀ {context : SpanContext}, context.WellFormed →
    sdk.parse (traceParent context) = some { context with traceState := [] }
  readState_none : sdk.readState none = []
  readState_some : ∀ {context : SpanContext}, context.WellFormed → context.traceState ≠ [] →
    sdk.readState (some context.traceState) = context.traceState
  child_wellFormed : ∀ {parent : SpanContext} (n : Nat), parent.WellFormed → (sdk.child parent n).1.WellFormed
  child_traceId : ∀ {parent : SpanContext} (n : Nat), parent.WellFormed →
    (sdk.child parent n).1.traceId = parent.traceId
  root_wellFormed : ∀ n : Nat, (sdk.root n).1.WellFormed

structure Process where
  port : Port
  /-- The headers in the order the runtime goes through them. -/
  entries : Headers → HeaderMap
  sdk : Sdk
  settings : Settings
  starting : Instruments
  completing : Instruments

namespace Process

def spanUnder (process : Process) (current : Option Span) (started : Nat) : Parent → SpanContext × Bool
  | .remote context    => process.sdk.child context started
  | .synthetic traceId => process.sdk.child (process.sdk.madeUp traceId started) started
  | .current           =>
    match current with
    | some span => process.sdk.child span.context started
    | none      => process.sdk.root started

/-- A span is started under the parent that the port finds in the headers. -/
def tracer (process : Process) : Tracer := fun _ headers current started =>
  process.spanUnder current started
    (process.port.parent process.sdk.toW3cReader (process.entries headers) (current.map (·.context)))

/-- Activities have a listener. -/
def telemetry (process : Process) : Telemetry where
  tracer := process.tracer
  inject := process.sdk.inject
  source := process.tracer.source
  settings := process.settings

def start (process : Process) (opening : Opening) : Act (Option CallSpan) :=
  process.port.start process.telemetry ⟨opening, none, none, process.starting, process.starting⟩

def complete (process : Process) (response : Option Command) (exception : Option Thrown) :
    EStateM Failure (CallSpan × Thread) Unit :=
  process.port.complete process.settings process.completing response exception

/-- It injects, goes through all the headers there are, and nothing raises. -/
structure Works (process : Process) : Prop where
  standard : process.sdk.Standard
  entries : ∀ {headers : Headers}, headers.Finite → ∀ name, (process.entries headers).lookup name = headers name
  injects : process.settings.isAutoInjectEnabled = true
  starting : process.starting.Calm
  completing : process.completing.Calm

end Process

/-! ## The calls -/

/-- The calls that a piece of code makes, one after the other: each with the process and the thread it is handled on,
the calls that its handler makes, and what it ends with. -/
inductive Calls where
  | done
  | call (command : Command) (connection : ConnectionData) (callee : Process) (thread : Thread) (inside : Calls)
      (response : Option Command) (exception : Option Thrown) (rest : Calls)

/-- Their spans, and the thread that each handler leaves. -/
inductive Spans where
  | done
  | call (invoke handle : SpanContext) (inside : Spans) (thread : Thread) (rest : Spans)
  | missing

/-- The spans that the calls lead to, and the thread they leave. -/
def Calls.run (process : Process) (t : Thread) : Calls → Spans × Thread
  | done => (.done, t)
  | call command connection callee thread inside response exception rest =>
    match process.start (.invoke command connection) t with
    | .ok (some invoke) t₁ =>
      match callee.start (.handle command (connection.getHeaders t₁.localHeaders)) thread with
      | .ok (some handle) t₂ =>
        let within := inside.run callee t₂
        match callee.complete response exception (handle, within.2),
            process.complete response exception (invoke, t₁) with
        | .ok _ s₂, .ok _ s₁ =>
          let next := rest.run process s₁.2
          (.call invoke.span.context handle.span.context within.1 s₂.2 next.1, next.2)
        | _, _               => (.missing, t₁)
      | _ => (.missing, t₁)
    | _ => (.missing, t)

/-! ## What becomes of them -/

/-- A name that some port takes for that of a trace header. -/
def TraceName (name : Text) : Prop :=
  ∃ key, IsTraceHeader key ∧
    (name = key ∨ Python.sameName key name = true ∨ Java.equalsIgnoreCase key name = true)

structure Untraced (headers : Headers) : Prop where
  finite : headers.Finite
  absent : ∀ name, TraceName name → headers name = none

/-- The calls are traced, no header of a connection or of a thread speaks of a trace, and the processes work. -/
def Calls.Plain : Calls → Prop
  | done => True
  | call command connection callee thread inside _ _ rest =>
    (∃ operation, resolveOperation command = some operation) ∧ Untraced connection.headers ∧ callee.Works ∧
      (thread.Fresh ∧ Untraced thread.localHeaders) ∧ inside.Plain ∧ rest.Plain

/-- The thread has the headers, the context and the open spans that it had. -/
structure Thread.Back (t t' : Thread) : Prop where
  localHeaders : t'.localHeaders = t.localHeaders
  current : t'.current = t.current
  live : t'.live = t.live
  started : t.started ≤ t'.started

/-- A span under this parent, or the first of a trace. -/
def Sdk.Under (sdk : Sdk) (context : SpanContext) : Option SpanContext → Prop
  | some parent => ∃ n, context = (sdk.child parent n).1
  | none        => ∃ n, context = (sdk.root n).1

/-- The spans continue one another as the calls do: an invocation is under the span its caller is in, and its handling
under the invocation, even where the thread it is handled on was in another; the calls of the handler continue that. -/
inductive Continues : Process → Option SpanContext → Calls → Spans → Prop
  | done (process : Process) (parent : Option SpanContext) : Continues process parent .done .done
  | call {process callee : Process} {parent : Option SpanContext} {command : Command} {connection : ConnectionData}
      {thread left : Thread} {inside rest : Calls} {response : Option Command} {exception : Option Thrown}
      {invoke handle : SpanContext} {within next : Spans} (invoked : process.sdk.Under invoke parent)
      (handled : callee.sdk.Under handle (some invoke)) (back : thread.Back left)
      (inner : Continues callee (some handle) inside within) (later : Continues process parent rest next) :
      Continues process parent (.call command connection callee thread inside response exception rest)
        (.call invoke handle within left next)

/-- All of them are in the trace. -/
def Spans.In (traceId : Text) : Spans → Prop
  | done => True
  | call invoke handle inside _ rest =>
    invoke.traceId = traceId ∧ handle.traceId = traceId ∧ inside.In traceId ∧ rest.In traceId
  | missing => False

/-! ## What a port finds -/

/-- The header a port takes for this one. -/
def Port.find : Port → HeaderMap → Text → Option Text
  | python => header Python.sameName
  | java   => header Java.equalsIgnoreCase
  | dotnet => fun headers key => headers.lookup key

def Port.isSpace : Port → Char → Bool
  | python => Python.isSpace
  | java   => Java.isSpace
  | dotnet => DotNet.isSpace

theorem Port.parent_eq (port : Port) (reader : W3cReader) (headers : HeaderMap) (current : Option SpanContext) :
    port.parent reader headers current = startIn reader (port.find headers) port.isSpace (differs current) := by
  cases port <;> rfl

section Find

variable {headers : HeaderMap} {key value : Text}

/-- A header by its exact name comes first, -/
theorem Port.find_of_lookup (port : Port) (h : headers.lookup key = some value) :
    port.find headers key = some value := by
  cases port with
  | python => exact header_of_lookup h
  | java   => exact header_of_lookup h
  | dotnet => exact h

theorem header_none {same : Text → Text → Bool} (hkey : headers.lookup key = none)
    (hsame : ∀ name, same key name = true → headers.lookup name = none) : header same headers key = none := by
  rw [header, hkey]
  apply Option.map_eq_none_iff.2
  rw [List.find?_eq_none]
  rintro ⟨name, value⟩ hentry hname
  have hnone : ∀ entry ∈ headers, (name == entry.1) = false := by
    simpa using List.lookup_eq_none_iff.1 (hsame name hname)
  simpa using hnone _ hentry

/-- and nothing is found where no name is taken for it. -/
theorem Port.find_none (port : Port) (h : ∀ name,
    name = key ∨ Python.sameName key name = true ∨ Java.equalsIgnoreCase key name = true → headers.lookup name = none) :
    port.find headers key = none := by
  cases port with
  | python => exact header_none (h key (Or.inl rfl)) fun name hname => h name (Or.inr (Or.inl hname))
  | java   => exact header_none (h key (Or.inl rfl)) fun name hname => h name (Or.inr (Or.inr hname))
  | dotnet => exact h key (Or.inl rfl)

end Find

/-! ## From an injection to the span that is handled -/

section Headers

variable {telemetry : Telemetry} {context : SpanContext} {threadLocal headers : Headers} {connection : ConnectionData}
  {name : Text}

theorem same_traceState_ne (h : Python.sameName traceStateHeader name = true ∨
    Java.equalsIgnoreCase traceStateHeader name = true) : name ≠ traceParentHeader ∧ name ≠ traceIdHeader := by
  constructor <;> rintro rfl <;> revert h <;> decide

theorem injected_traceParent_eq (port : Port) (hinject : Propagates telemetry.inject) (hvalid : context.isValid = true)
    (threadLocal : Headers) :
    port.injected telemetry context threadLocal traceParentHeader = some (traceParent context) := by
  have hdotnet : Dotnet.injected context threadLocal traceParentHeader = some (traceParent context) := by
    rw [dotnet_injected_apply, if_neg traceState_ne_traceParent.symm, if_neg traceId_ne_traceParent.symm, if_pos rfl]
  cases port with
  | python => exact injected_traceParent threadLocal hinject hvalid
  | java   => exact injected_traceParent threadLocal hinject hvalid
  | dotnet => exact hdotnet

theorem injected_traceState_eq (port : Port) (hinject : Propagates telemetry.inject) (hvalid : context.isValid = true)
    (threadLocal : Headers) (h : context.traceState ≠ []) :
    port.injected telemetry context threadLocal traceStateHeader = some context.traceState := by
  have hempty : ¬ context.traceState.isEmpty = true := by simpa using h
  have hlibrary := injected_traceState threadLocal hinject hvalid
  have hdotnet := dotnet_injected_apply context threadLocal traceStateHeader
  rw [if_neg hempty] at hlibrary
  rw [if_pos rfl, if_neg hempty] at hdotnet
  cases port with
  | python => exact hlibrary
  | java   => exact hlibrary
  | dotnet => exact hdotnet

theorem injected_keepsOthers (port : Port) (hinject : Propagates telemetry.inject) (context : SpanContext)
    (threadLocal : Headers) : KeepsOthers threadLocal (port.injected telemetry context threadLocal) := by
  cases port with
  | python => exact fun _ => injected_of_not_trace threadLocal hinject
  | java   => exact fun _ => injected_of_not_trace threadLocal hinject
  | dotnet => exact dotnet_keepsOthers context threadLocal

/-- No state is written for a context without one. -/
theorem injected_none (port : Port) (hinject : Propagates telemetry.inject) (hvalid : context.isValid = true)
    (h : context.traceState = []) (hparent : name ≠ traceParentHeader) (hid : name ≠ traceIdHeader)
    (hlocal : threadLocal name = none) : port.injected telemetry context threadLocal name = none := by
  have hempty : context.traceState.isEmpty = true := by rw [h]; rfl
  by_cases hstate : name = traceStateHeader
  · subst hstate
    have hlibrary := injected_traceState threadLocal hinject hvalid
    have hdotnet := dotnet_injected_apply context threadLocal traceStateHeader
    rw [if_pos hempty] at hlibrary
    rw [if_pos rfl, if_pos hempty, hlocal] at hdotnet
    cases port with
    | python => exact hlibrary
    | java   => exact hlibrary
    | dotnet => exact hdotnet
  · rw [injected_keepsOthers port hinject context threadLocal name, hlocal]
    rintro (hp | hs | hi)
    · exact hparent hp
    · exact hstate hs
    · exact hid hi

theorem finite_injected (port : Port) (hinject : Propagates telemetry.inject) (context : SpanContext)
    (h : threadLocal.Finite) : (port.injected telemetry context threadLocal).Finite := by
  obtain ⟨names, hnames⟩ := h
  refine ⟨traceParentHeader :: traceStateHeader :: traceIdHeader :: names, fun name hname => ?_⟩
  by_cases htrace : IsTraceHeader name
  · rcases htrace with rfl | rfl | rfl <;> simp
  · rw [injected_keepsOthers port hinject context threadLocal name htrace] at hname
    simp [hnames name hname]

theorem finite_getHeaders (h : threadLocal.Finite) (hconnection : connection.headers.Finite) :
    (connection.getHeaders threadLocal).Finite := by
  obtain ⟨names, hnames⟩ := h
  obtain ⟨own, hown⟩ := hconnection
  refine ⟨names ++ own, fun name hname => ?_⟩
  by_cases hlocal : threadLocal name = none
  · rw [connection.getHeaders_none hlocal] at hname
    exact List.mem_append_right _ (hown name hname)
  · exact List.mem_append_left _ (hnames name hlocal)

theorem Untraced.getHeaders (hlocal : Untraced threadLocal) (hconnection : Untraced connection.headers) :
    Untraced (connection.getHeaders threadLocal) where
  finite := finite_getHeaders hlocal.finite hconnection.finite
  absent name hname := by rw [connection.getHeaders_none (hlocal.absent name hname), hconnection.absent name hname]

theorem IsTraceHeader.traceName (h : IsTraceHeader name) : TraceName name := ⟨name, h, Or.inl rfl⟩

theorem injects_untraced (hvalid : context.isValid = true) (hconnection : Untraced connection.headers) :
    injects context connection threadLocal = true :=
  injects_iff.2 ⟨hvalid, Or.inl (hconnection.absent _ (IsTraceHeader.traceName (Or.inl rfl)))⟩

end Headers

section Tracer

variable {process : Process} {telemetry : Telemetry} {context : SpanContext} {threadLocal headers : Headers}
  {connection : ConnectionData} {key value : Text}

theorem Process.Works.finds (hw : process.Works) (hfinite : headers.Finite) (h : headers key = some value) :
    process.port.find (process.entries headers) key = some value :=
  process.port.find_of_lookup (by rw [hw.entries hfinite, h])

theorem Process.Works.absent (hw : process.Works) (hfinite : headers.Finite) (h : ∀ name,
    name = key ∨ Python.sameName key name = true ∨ Java.equalsIgnoreCase key name = true → headers name = none) :
    process.port.find (process.entries headers) key = none :=
  process.port.find_none fun name hname => by rw [hw.entries hfinite, h name hname]

/-- What is found of an injected context is the context. -/
theorem find_injected (hw : process.Works) (port : Port) (hinject : Propagates telemetry.inject)
    (hcontext : context.WellFormed) (hlocal : Untraced threadLocal) (hconnection : Untraced connection.headers) :
    (process.port.find (process.entries (connection.getHeaders (port.injected telemetry context threadLocal)))
        traceParentHeader).bind process.sdk.parse = some { context with traceState := [] } ∧
      process.sdk.readState (process.port.find
        (process.entries (connection.getHeaders (port.injected telemetry context threadLocal))) traceStateHeader) =
          context.traceState := by
  have hfinite := finite_getHeaders (finite_injected port hinject context hlocal.finite) hconnection.finite
  constructor
  · rw [hw.finds hfinite (connection.getHeaders_some (injected_traceParent_eq port hinject hcontext.valid threadLocal)),
      Option.bind_some, hw.standard.parse_traceParent hcontext]
  · by_cases hstate : context.traceState = []
    · rw [hw.absent hfinite, hw.standard.readState_none, hstate]
      intro name hname
      have hne : name ≠ traceParentHeader ∧ name ≠ traceIdHeader := by
        rcases hname with rfl | hsame
        · decide
        · exact same_traceState_ne hsame
      have htrace : TraceName name := ⟨traceStateHeader, Or.inr (Or.inl rfl), hname⟩
      rw [connection.getHeaders_none
          (injected_none port hinject hcontext.valid hstate hne.1 hne.2 (hlocal.absent name htrace)),
        hconnection.absent name htrace]
    · rw [hw.finds hfinite
          (connection.getHeaders_some (injected_traceState_eq port hinject hcontext.valid threadLocal hstate)),
        hw.standard.readState_some hcontext hstate]

/-- **The handling is under the invocation**, whatever its thread was in. -/
theorem tracer_injected (hw : process.Works) (port : Port) (hinject : Propagates telemetry.inject)
    (hcontext : context.WellFormed) (hlocal : Untraced threadLocal) (hconnection : Untraced connection.headers)
    (name : Text) (current : Option Span) (started : Nat) :
    process.tracer name (connection.getHeaders (port.injected telemetry context threadLocal)) current started =
      process.sdk.child context started := by
  obtain ⟨hparse, hstate⟩ := find_injected hw port hinject hcontext hlocal hconnection
  unfold Process.tracer
  rw [Port.parent_eq, startIn_remote hparse, hstate]
  rfl

/-- Without a header of a trace the invocation is under the current span. -/
theorem tracer_untraced (hw : process.Works) (hheaders : Untraced headers) (name : Text) (current : Option Span)
    (started : Nat) :
    process.sdk.Under (process.tracer name headers current started).1 (current.map (·.context)) := by
  have hnone {key : Text} (hkey : IsTraceHeader key) : process.port.find (process.entries headers) key = none :=
    hw.absent hheaders.finite fun name hname => hheaders.absent name ⟨key, hkey, hname⟩
  have hstart : process.port.parent process.sdk.toW3cReader (process.entries headers) (current.map (·.context)) =
      .current := by
    rw [Port.parent_eq, startIn, hnone (Or.inl rfl), hnone (Or.inr (Or.inr rfl))]
    rfl
  unfold Process.tracer
  rw [hstart]
  cases current with
  | some span => exact ⟨started, rfl⟩
  | none      => exact ⟨started, rfl⟩

end Tracer

/-! ## Starting and completing -/

section Spans

variable {process : Process} {parent context : SpanContext} {current : Option SpanContext} {t t₁ t₂ t₃ : Thread}
  {self : CallSpan}

theorem Sdk.Under.wellFormed (hs : process.sdk.Standard) (h : process.sdk.Under context current)
    (hcurrent : ∀ parent, current = some parent → parent.WellFormed) : context.WellFormed := by
  cases current with
  | some parent =>
    obtain ⟨n, rfl⟩ := h
    exact hs.child_wellFormed n (hcurrent parent rfl)
  | none        =>
    obtain ⟨n, rfl⟩ := h
    exact hs.root_wellFormed n

theorem Thread.Back.refl (t : Thread) : t.Back t := ⟨rfl, rfl, rfl, Nat.le_refl _⟩

theorem Thread.Back.trans (h : t₁.Back t₂) (h' : t₂.Back t₃) : t₁.Back t₃ where
  localHeaders := h'.localHeaders.trans h.localHeaders
  current := h'.current.trans h.current
  live := h'.live.trans h.live
  started := h.started.trans h'.started

theorem Thread.Back.fresh (h : t₁.Back t₂) (ht : t₁.Fresh) : t₂.Fresh := by
  intro number hm
  rw [h.live] at hm
  exact (ht number hm).trans_le h.started

theorem Opened.fresh_thread {write : SpanContext → Headers → Headers} {into : Option ConnectionData} {span : Span}
    (h : Opened write into span t self t₁) (ht : t.Fresh) : t₁.Fresh := by
  intro number hm
  rw [h.live] at hm
  rw [h.started]
  rcases List.mem_cons.1 hm with rfl | hm
  · exact Nat.lt_succ_self _
  · exact Nat.lt_succ_of_lt (ht number hm)

/-- A traced call has its span, with the context the tracer gives it. -/
theorem starts_span (hw : process.Works) (opening : Opening) {operation : Text}
    (hoperation : resolveOperation opening.command = some operation) (t : Thread) :
    ∃ self t₁, process.start opening t = .ok (some self) t₁ ∧
      Opened (process.port.injected process.telemetry) (opening.into process.settings self.span t) self.span t self t₁ ∧
      self.span.number = t.started ∧
      self.span.context = (process.tracer (opening.name operation) (opening.carrier t) t.current t.started).1 := by
  have hsource : process.port.source process.telemetry = process.tracer.source := by
    unfold Port.source
    cases process.port <;> rfl
  have hs := start_starts process.port process.telemetry
    ⟨opening, none, none, process.starting, process.starting⟩ t
  unfold Starts Opening.span at hs
  rw [hsource] at hs
  simp only [hoperation, Tracer.source, Option.map_some] at hs
  obtain ⟨self, t₁, hok, ho⟩ := hs.1 fun step _ => hw.starting step
  have hspan := ho.span_eq
  refine ⟨self, t₁, hok, hspan ▸ ho, ?_, ?_⟩
  · rw [hspan]
  · rw [hspan]

/-- The completion gives back what the span was opened in. -/
theorem completes_back (hw : process.Works) {write : SpanContext → Headers → Headers} {into : Option ConnectionData}
    (ho : Opened write into self.span t self t₁) (hnumber : self.span.number = t.started) (ht : t.Fresh)
    (hback : t₁.Back t₂) (response : Option Command) (exception : Option Thrown) :
    ∃ self' t₃, process.complete response exception (self, t₂) = .ok () (self', t₃) ∧ t.Back t₃ := by
  have hlive : t₂.live = self.span.number :: t.live := by rw [hback.live, ho.live, hnumber]
  have hc := completes process.port process.settings process.completing response exception ho.fresh
    (hback.current.trans ho.current) (by rw [hlive]; exact List.mem_cons_self)
  unfold Process.complete
  generalize process.port.complete process.settings process.completing response exception (self, t₂) = result at hc
  cases hc with
  | closed self' t' q          =>
    refine ⟨self', (self.restored t').close self, rfl, ?_, ho.token, ?_, ?_⟩
    · show self.before t'.localHeaders = t.localHeaders
      rw [q.1, hback.localHeaders, ho.before]
    · show t'.live.filter (· != self.span.number) = t.live
      rw [q.2.2.2, hlive, List.filter_cons_of_neg (by simp), List.filter_eq_self]
      intro number hm
      exact bne_iff_ne.2 fun heq => (Nat.ne_of_lt (ht number hm)) (heq.trans hnumber)
    · show t.started ≤ t'.started
      rw [q.2.2.1]
      exact Nat.le_trans (ho.started ▸ Nat.le_succ _) hback.started
  | marked _ _ _ fails _       => exact absurd hw.completing fails
  | left _ _ _ fails _         => exact absurd hw.completing fails

end Spans

/-! ## The run -/

/-- **The calls continue one another** on any thread that is not in the middle of a call of its own. -/
theorem Calls.run_continues : ∀ (calls : Calls) {process : Process} {t : Thread}, process.Works → calls.Plain →
    t.Fresh → Untraced t.localHeaders → (∀ span, t.current = some span → span.context.WellFormed) →
    Continues process (t.current.map (·.context)) calls (calls.run process t).1 ∧ t.Back (calls.run process t).2
  | done, process, t, _, _, _, _, _ => ⟨.done process _, Thread.Back.refl t⟩
  | call command connection callee thread inside response exception rest, process, t, hw, hplain, ht, hlocal,
      hcurrent => by
    obtain ⟨⟨operation, hoperation⟩, hconnection, hcallee, ⟨hthread, hthreadLocal⟩, hinside, hrest⟩ := hplain
    -- the invocation, under the current span
    obtain ⟨invoke, t₁, hinvoke, ho, hnumber, hcontext⟩ :=
      starts_span hw (.invoke command connection) hoperation t
    have hinvoked : process.sdk.Under invoke.span.context (t.current.map (·.context)) := by
      rw [hcontext]
      exact tracer_untraced hw (hlocal.getHeaders hconnection) _ _ _
    have hwell : invoke.span.context.WellFormed := by
      apply hinvoked.wellFormed hw.standard
      intro parent hparent
      obtain ⟨span, hspan, rfl⟩ := Option.map_eq_some_iff.1 hparent
      exact hcurrent span hspan
    have hheaders : t₁.localHeaders = process.port.injected process.telemetry invoke.span.context t.localHeaders := by
      have hinto : (Opening.invoke command connection).into process.settings invoke.span t = some connection := by
        simp only [Opening.into, hw.injects, injects_untraced hwell.valid hconnection, Bool.and_self, if_true]
      rw [ho.headers, hinto, if_neg (by simp)]
    -- the handling, under the invocation
    obtain ⟨handle, t₂, hhandle, ho', hnumber', hcontext'⟩ :=
      starts_span hcallee (.handle command (connection.getHeaders t₁.localHeaders)) hoperation thread
    have hhandled : handle.span.context = (callee.sdk.child invoke.span.context thread.started).1 := by
      rw [hcontext']
      show (callee.tracer _ (connection.getHeaders t₁.localHeaders) _ _).1 = _
      rw [hheaders, tracer_injected hcallee process.port hw.standard.propagates hwell hlocal hconnection]
    have hwell' : handle.span.context.WellFormed := hhandled ▸ hcallee.standard.child_wellFormed _ hwell
    have hlocal' : t₂.localHeaders = thread.localHeaders := ho'.headers
    -- what the handler does, and the ends of the two
    obtain ⟨hwithin, hback⟩ := inside.run_continues hcallee hinside (ho'.fresh_thread hthread) (hlocal' ▸ hthreadLocal)
      fun span hspan => by
        rw [ho'.current] at hspan
        cases hspan
        exact hwell'
    rw [ho'.current] at hwithin
    obtain ⟨_, t₃, hdone, hthreadBack⟩ := completes_back hcallee ho' hnumber' hthread hback response exception
    obtain ⟨_, t₄, hdone', hcallerBack⟩ :=
      completes_back hw ho hnumber ht (Thread.Back.refl t₁) response exception
    obtain ⟨hnext, hlast⟩ := rest.run_continues hw hrest (hcallerBack.fresh ht) (hcallerBack.localHeaders ▸ hlocal)
      fun span hspan => hcurrent span (hcallerBack.current ▸ hspan)
    rw [hcallerBack.current] at hnext
    simp only [Calls.run, hinvoke, hhandle, hdone, hdone']
    exact ⟨.call hinvoked ⟨_, hhandled⟩ hthreadBack hwithin hnext, hcallerBack.trans hlast⟩

/-- What continues a span is in its trace. -/
theorem Continues.in_trace : ∀ {calls : Calls} {process : Process} {parent : SpanContext} {spans : Spans},
    process.Works → calls.Plain → parent.WellFormed → Continues process (some parent) calls spans →
      spans.In parent.traceId
  | .done, _, _, _, _, _, _, .done _ _ => trivial
  | .call .., process, parent, _, hw, hplain, hparent, .call hinvoked hhandled _ hinner hlater => by
    obtain ⟨-, -, hcallee, -, hinside, hrest⟩ := hplain
    obtain ⟨n, rfl⟩ := hinvoked
    obtain ⟨m, rfl⟩ := hhandled
    have hwell := hw.standard.child_wellFormed n hparent
    have hinvoke := hw.standard.child_traceId n hparent
    have hhandle := (hcallee.standard.child_traceId m hwell).trans hinvoke
    have hwithin := hinner.in_trace hcallee hinside (hcallee.standard.child_wellFormed m hwell)
    exact ⟨hinvoke, hhandle, hhandle ▸ hwithin, hlater.in_trace hw hrest hparent⟩

section Demo

def firstId : Text := "00f067aa0ba902b7".toList

def secondId : Text := "b7ad6b7169203331".toList

def outerContext : SpanContext :=
  ⟨"4bf92f3577b34da6a3ce929d0e0e4736".toList, firstId, "01".toList, [], true⟩

def parseTraceParent (text : Text) : Option SpanContext :=
  let context : SpanContext := ⟨(text.drop 3).take 32, (text.drop 36).take 16, (text.drop 53).take 2, [], true⟩
  if text = traceParent context ∧ (context.traceId ++ context.spanId ++ context.traceFlags).all isLowerHex = true ∧
      context.traceId.all (· == '0') = false ∧ context.spanId.all (· == '0') = false then some context
  else none

/-- The id of a new span is one that its parent does not have. -/
def demoSdk : Sdk where
  parse := parseTraceParent
  readState state := state.getD []
  inject := w3cInject
  child parent _ := ({ parent with spanId := if parent.spanId = firstId then secondId else firstId }, true)
  root _ := (outerContext, true)
  madeUp traceId _ := { outerContext with traceId }

theorem firstId_isId : IsId 16 firstId := by decide

theorem secondId_isId : IsId 16 secondId := by decide

theorem outerContext_wellFormed : outerContext.WellFormed := ⟨rfl, by decide, firstId_isId, by decide⟩

theorem parseTraceParent_traceParent {context : SpanContext} (h : context.WellFormed) :
    parseTraceParent (traceParent context) = some { context with traceState := [] } := by
  obtain ⟨traceId, spanId, traceFlags, traceState, isValid⟩ := context
  obtain ⟨rfl, ⟨htlen, hthex, htzero⟩, ⟨hslen, hshex, hszero⟩, hflen, hfhex⟩ := h
  -- the parts, by their places
  have htrace : ((traceParent ⟨traceId, spanId, traceFlags, traceState, true⟩).drop 3).take 32 = traceId := by
    simp [traceParent, List.take_left' htlen]
  have hspan : ((traceParent ⟨traceId, spanId, traceFlags, traceState, true⟩).drop 36).take 16 = spanId := by
    have hsplit : traceParent ⟨traceId, spanId, traceFlags, traceState, true⟩ =
        ("00-".toList ++ traceId ++ "-".toList) ++ (spanId ++ ("-".toList ++ traceFlags)) := by simp [traceParent]
    rw [hsplit, List.drop_left' (by simp [htlen]), List.take_left' hslen]
  have hflags : ((traceParent ⟨traceId, spanId, traceFlags, traceState, true⟩).drop 53).take 2 = traceFlags := by
    have hsplit : traceParent ⟨traceId, spanId, traceFlags, traceState, true⟩ =
        ("00-".toList ++ traceId ++ "-".toList ++ spanId ++ "-".toList) ++ traceFlags := by simp [traceParent]
    rw [hsplit, List.drop_left' (by simp [htlen, hslen]), List.take_of_length_le (Nat.le_of_eq hflen)]
  simp only [parseTraceParent, htrace, hspan, hflags]
  rw [if_pos ⟨rfl, by rw [List.all_append, List.all_append, hthex, hshex, hfhex]; rfl, htzero, hszero⟩]

theorem demoSdk_standard : demoSdk.Standard where
  propagates := propagates_w3cInject
  parse_traceParent := parseTraceParent_traceParent
  readState_none := rfl
  readState_some _ _ := rfl
  child_wellFormed _ h := by
    refine ⟨h.valid, h.traceId, ?_, h.traceFlags⟩
    simp only [demoSdk]
    split
    · exact secondId_isId
    · exact firstId_isId
  child_traceId _ _ := rfl
  root_wellFormed _ := outerContext_wellFormed

open Classical in
/-- Some order of the headers. -/
noncomputable def someEntries (headers : Headers) : HeaderMap :=
  if h : headers.Finite then h.choose.filterMap fun name => (headers name).map fun value => (name, value) else []

theorem lookup_filterMap (headers : Headers) (key : Text) : ∀ names : List Text,
    (names.filterMap fun name => (headers name).map fun value => (name, value)).lookup key =
      if key ∈ names then headers key else none
  | []            => rfl
  | name :: names => by
    have ih := lookup_filterMap headers key names
    by_cases hname : key = name
    · subst hname
      cases hvalue : headers key with
      | none       => simp [hvalue, ih]
      | some value => simp [hvalue]
    · cases hvalue : headers name with
      | none       => simp [hvalue, ih, hname]
      | some value => simp [hvalue, ih, hname, List.lookup_cons, beq_false_of_ne hname]

theorem lookup_someEntries {headers : Headers} (h : headers.Finite) (key : Text) :
    (someEntries headers).lookup key = headers key := by
  rw [someEntries, dif_pos h, lookup_filterMap]
  by_cases hkey : key ∈ h.choose
  · rw [if_pos hkey]
  · rw [if_neg hkey]
    by_contra hne
    exact hkey (h.choose_spec key fun hnone => hne hnone.symm)

noncomputable def demoProcess (port : Port) : Process := ⟨port, someEntries, demoSdk, {}, calm, calm⟩

theorem demoProcess_works (port : Port) : (demoProcess port).Works where
  standard := demoSdk_standard
  entries := lookup_someEntries
  injects := rfl
  starting := calm_not_fails
  completing := calm_not_fails

noncomputable def callBack : Calls :=
  .call fetch plain (demoProcess .dotnet) {} (.call fetch plain (demoProcess .python) {} .done none none .done)
    (some fetch) none .done

def serving : Thread := { current := some ⟨0, outerContext, true⟩, started := 1, live := [0] }

end Demo

end Tracing
end Graftcode
