import Graftcode.Act
import Graftcode.TraceHeaders
/-!
# CallSpan — the span of one call, and the trace state of its thread

`CallSpan` of the Python and Java instrumentation, one program in two languages but for the closing of the context, and
that of .NET, whose activity is current from its start and whose `Complete` has no `finally`.  A thread holds the
headers of all its connections and the current span.  Whatever renders a body, redacts a text or sets an attribute or a
status may raise.  Outside are `LibraryCatalog`, `OperationName`, `BodyCapture`, `LogsRedactor` and the tracer, with the
parent it finds in the headers.
-/
namespace Graftcode
namespace Tracing

/-- A span, by its place among those the thread has started. -/
structure Span where
  number : Nat
  context : SpanContext
  isRecording : Bool
  deriving DecidableEq

/-- What a span tells its exporter. -/
inductive Exported where
  | attribute (span : Nat) (key value : Text)
  | flag (span : Nat) (key : Text)
  | status (span : Nat) (ok : Bool) (description : Text)

structure Thread where
  localHeaders : Headers := Headers.empty
  current : Option Span := none
  started : Nat := 0
  -- the spans that have not ended
  live : List Nat := []
  exported : List Exported := []

/-- An exception, as its text. -/
abbrev Failure := Text

abbrev Act := EStateM Failure Thread

/-- What may raise; a redaction and an attribute go by the attribute's key. -/
inductive Step where
  | redactTarget
  | redactValue (key : Text)
  | setAttribute (key : Text)
  | render (bodyKey : Text)
  | setStatus
  deriving DecidableEq

/-- What one call meets outside. -/
structure Instruments where
  redactValue : Option Text → Option Text
  redactTarget : Option Text → Option Text
  raises : Step → Option Failure

structure Settings where
  isAutoInjectEnabled : Bool := true
  isBodyCaptureEnabled : Bool := false

/-- A command, and what `OperationName.resolve`, `LibraryCatalog.describe_target` and `BodyCapture.render` say of it. -/
structure Command where
  runtimeName : Text
  commandType : Text
  operation : Text
  target : Text
  -- the rendered body and whether it was truncated
  body : Option (Text × Bool) := none

/-- An exception the call ended with. -/
structure Thrown where
  typeName : Text
  message : Option Text

/-- The tracer: the context of a new span and whether it records, from its name, the headers that may name its parent,
the current span and how many came before. -/
abbrev Tracer := (name : Text) → Headers → (current : Option Span) → (started : Nat) → SpanContext × Bool

/-- A `CallSpan`; the token is what was current before it. -/
structure CallSpan where
  span : Span
  token : Option Span
  injectedInto : Option ConnectionData := none
  previousHeaders : Headers := Headers.empty
  completed : Bool := false

def dependencyType : Text := "graft.dependency.type".toList
def dependencyTarget : Text := "graft.dependency.target".toList
def bridgeDependencyType : Text := "Graft".toList
def requestBody : Text := "hypertube.request.body".toList
def responseBody : Text := "hypertube.response.body".toList
def requestBodyTruncated : Text := "hypertube.request.body.truncated".toList
def responseBodyTruncated : Text := "hypertube.response.body.truncated".toList

def skippedCommands : List Text :=
  ["PassByValue".toList, "RegisterForUpdate".toList, "ValueForUpdate".toList, "InvokeDelegate".toList]

def lower (text : Text) : Text := text.map Char.toLower

def resolveOperation (command : Command) : Option Text :=
  if command.commandType ∈ skippedCommands then none
  else if "telemetrysetup.initialize".toList.isSuffixOf (lower command.operation) then none
  else some command.operation

def invokeName (command : Command) : Text := "Graft ".toList ++ command.target

/-! ## The steps -/

section Steps

variable (i : Instruments)

def attempt (step : Step) : Act Unit :=
  match i.raises step with
  | some failure => throw failure
  | none         => pure ()

def export_ (record : Exported) : Act Unit := modify fun t => { t with exported := t.exported ++ [record] }

def setAttribute (span : Span) (key value : Text) : Act Unit := do
  attempt i (.setAttribute key)
  export_ (.attribute span.number key value)

def setFlag (span : Span) (key : Text) : Act Unit := do
  attempt i (.setAttribute key)
  export_ (.flag span.number key)

def setIfPresent (span : Span) (key : Text) : Option Text → Act Unit
  | some value => setAttribute i span key value
  | none       => pure ()

def setStatus (span : Span) (ok : Bool) (description : Text) : Act Unit := do
  attempt i .setStatus
  export_ (.status span.number ok description)

def redactValue (key : Text) (value : Option Text) : Act (Option Text) := do
  attempt i (.redactValue key)
  pure (i.redactValue value)

def redactTarget (hostname : Option Text) : Act (Option Text) := do
  attempt i .redactTarget
  pure (i.redactTarget hostname)

/-- What is said of an invocation, when its span records; `write` is how the language sets what may be null. -/
def describe (write : Text → Option Text → Act Unit) (command : Command) (operation : Text)
    (connection : ConnectionData) : Act Unit := do
  write "hypertube.runtime".toList (some command.runtimeName)
  write "hypertube.command_type".toList (some command.commandType)
  write "hypertube.connection_type".toList (some connection.connectionType)
  write dependencyType (some bridgeDependencyType)
  let target ← redactValue i dependencyTarget (some command.target)
  write dependencyTarget target
  let operation ← redactValue i "hypertube.operation".toList (some operation)
  write "hypertube.operation".toList operation
  let hostname ← redactTarget i connection.hostname
  let hostname ← redactValue i "hypertube.target".toList hostname
  write "hypertube.target".toList hostname

/-- What is said of the end of a call. -/
def conclude (write : Text → Option Text → Act Unit) (span : Span) : Option Thrown → Act Unit
  | none           => setStatus i span true []
  | some exception => do
    let message ← redactValue i "exception.message".toList exception.message
    write "exception.type".toList (some exception.typeName)
    write "exception.message".toList message
    setStatus i span false (message.getD [])

variable (settings : Settings)

def setBody (span : Span) (bodyKey truncatedKey : Text) : Option (Text × Bool) → Act Unit
  | none                   => pure ()
  | some (body, truncated) => do
    setAttribute i span bodyKey body
    if truncated then setFlag i span truncatedKey else pure ()

def capture (span : Span) (command : Command) (bodyKey truncatedKey : Text) : Act Unit :=
  if !span.isRecording || !settings.isBodyCaptureEnabled then pure ()
  else do
    attempt i (.render bodyKey)
    setBody i span bodyKey truncatedKey command.body

def captureResponse (span : Span) : Option Command → Act Unit
  | none          => pure ()
  | some response => capture i settings span response responseBody responseBodyTruncated

def setThreadLocalHeaders (headers : Headers) : Act Unit := modify fun t => { t with localHeaders := headers }

/-- `_inject_into`, where `write` makes the headers from the thread's. -/
def injectWith (write : SpanContext → Headers → Headers) (self : CallSpan) (connection : ConnectionData) :
    Act CallSpan := do
  let t ← get
  if injects self.span.context connection t.localHeaders then do
    setThreadLocalHeaders (write self.span.context t.localHeaders)
    pure { self with injectedInto := some connection, previousHeaders := t.localHeaders }
  else pure self

/-- Headers that were injected give way to those before them. -/
def restoreHeaders (self : CallSpan) : Act Unit :=
  match self.injectedInto with
  | none   => pure ()
  | some _ => setThreadLocalHeaders self.previousHeaders

/-- What `complete` does before it closes the context: the `try` block of Python and Java. -/
def settle (write : Text → Option Text → Act Unit) (self : CallSpan) (response : Option Command)
    (exception : Option Thrown) : Act Unit := do
  captureResponse i settings self.span response
  conclude i write self.span exception
  restoreHeaders self

end Steps

/-! ## Python and Java -/

section Python

variable (tracer : Tracer) (inject : Propagator) (settings : Settings) (i : Instruments)

/-- `_start`: the span has started, and is not yet current. -/
def start (name : Text) (headers : Headers) : Act Span := do
  let t ← get
  let answer := tracer name headers t.current t.started
  let span : Span := ⟨t.started, answer.1, answer.2⟩
  set { t with started := t.started + 1, live := t.started :: t.live }
  pure span

/-- The constructor, which attaches the span. -/
def attach (span : Span) : Act CallSpan := do
  let t ← get
  set { t with current := some span }
  pure { span := span, token := t.current }

def setAttributes (span : Span) (command : Command) (operation : Text) (connection : ConnectionData) : Act Unit :=
  if span.isRecording then describe i (setIfPresent i span) command operation connection else pure ()

def injectInto (self : CallSpan) (connection : ConnectionData) : Act CallSpan :=
  injectWith (injected inject) self connection

def startInvoke (command : Command) (connection : ConnectionData) : Act (Option CallSpan) :=
  match resolveOperation command with
  | none           => pure none
  | some operation => do
    let t ← get
    let span ← start tracer (invokeName command) (connection.getHeaders t.localHeaders)
    setAttributes i span command operation connection
    let callSpan ← attach span
    capture i settings span command requestBody requestBodyTruncated
    if settings.isAutoInjectEnabled then do
      let callSpan ← injectInto inject callSpan connection
      pure (some callSpan)
    else pure (some callSpan)

def startHandle (command : Command) (headers : Headers) : Act (Option CallSpan) :=
  match resolveOperation command with
  | none           => pure none
  | some operation => do
    let span ← start tracer operation headers
    let callSpan ← attach span
    capture i settings span command requestBody requestBodyTruncated
    pure (some callSpan)

/-- `detach`: Python puts back what was current when the token was made. -/
def detach (self : CallSpan) : Act Unit := modify fun t => { t with current := self.token }

/-- `scope.close`: Java does so only when the span is current. -/
def closeScope (self : CallSpan) : Act Unit :=
  modify fun t => if t.current = some self.span then { t with current := self.token } else t

def end_ (span : Span) : Act Unit := modify fun t => { t with live := t.live.filter (· != span.number) }

/-- The first call marks the call span as completed, on whose fields and whose thread this runs. -/
def complete (close : CallSpan → Act Unit) (response : Option Command) (exception : Option Thrown) :
    EStateM Failure (CallSpan × Thread) Unit := do
  let self := (← get).1
  if self.completed then pure ()
  else do
    modify fun s => ({ s.1 with completed := true }, s.2)
    try
      Act.onSnd (settle i settings (setIfPresent i self.span) self response exception)
    finally
      Act.onSnd (do close self; end_ self.span)

end Python

/-! ## .NET -/

namespace Dotnet

/-- `ActivitySource.StartActivity`: no activity when nobody listens. -/
abbrev Source := (name : Text) → Headers → (current : Option Span) → (started : Nat) → Option (SpanContext × Bool)

variable (source : Source) (settings : Settings) (i : Instruments)

/-- A tag without a value is not kept. -/
def setTag (activity : Span) (key : Text) (value : Option Text) : Act Unit := do
  attempt i (.setAttribute key)
  match value with
  | some value => export_ (.attribute activity.number key value)
  | none       => pure ()

/-- `Start`: the new activity is current, and knows the one before it. -/
def start (name : Text) (headers : Headers) : Act (Option CallSpan) := do
  let t ← get
  match source name headers t.current t.started with
  | none                        => pure none
  | some (context, isRecording) => do
    let activity : Span := ⟨t.started, context, isRecording⟩
    set { t with current := some activity, started := t.started + 1, live := t.started :: t.live }
    pure (some { span := activity, token := t.current })

def setTags (activity : Span) (command : Command) (operation : Text) (connection : ConnectionData) : Act Unit :=
  if activity.isRecording then describe i (setTag i activity) command operation connection else pure ()

/-- The headers `InjectInto` sets; `tracestate` is not removed. -/
def injected (context : SpanContext) (threadLocal : Headers) : Headers :=
  let headers := (threadLocal.set traceParentHeader (traceParent context)).set traceIdHeader context.traceId
  if context.traceState.isEmpty then headers else headers.set traceStateHeader context.traceState

/-- `isValid` is that the activity's id has the W3C format. -/
def injectInto (self : CallSpan) (connection : ConnectionData) : Act CallSpan := injectWith injected self connection

def startInvoke (command : Command) (connection : ConnectionData) : Act (Option CallSpan) :=
  match resolveOperation command with
  | none           => pure none
  | some operation => do
    let t ← get
    match ← start source (invokeName command) (connection.getHeaders t.localHeaders) with
    | none          => pure none
    | some callSpan => do
      setTags i callSpan.span command operation connection
      capture i settings callSpan.span command requestBody requestBodyTruncated
      if settings.isAutoInjectEnabled then do
        let callSpan ← injectInto callSpan connection
        pure (some callSpan)
      else pure (some callSpan)

def startHandle (command : Command) (headers : Headers) : Act (Option CallSpan) :=
  match resolveOperation command with
  | none           => pure none
  | some operation => do
    match ← start source operation headers with
    | none          => pure none
    | some callSpan => do
      capture i settings callSpan.span command requestBody requestBodyTruncated
      pure (some callSpan)

/-- `Activity.Dispose`: an activity that has not stopped stops, and the one before it is current again. -/
def dispose (self : CallSpan) : Act Unit :=
  modify fun t =>
    if self.span.number ∈ t.live then { t with live := t.live.filter (· != self.span.number), current := self.token }
    else t

def complete (self : CallSpan) (response : Option Command) (exception : Option Thrown) : Act Unit := do
  settle i settings (setTag i self.span) self response exception
  dispose self

end Dotnet

end Tracing
end Graftcode
