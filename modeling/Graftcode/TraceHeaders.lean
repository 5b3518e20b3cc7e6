import Graftcode.Cpp
import Mathlib.Logic.Function.Basic
/-!
# TraceHeaders — the headers that carry a trace

A connection has headers of its own, and every thread has headers that overlay them on all of its connections.  A span
that is injected writes its context into a copy of the thread's headers, through the W3C propagator of the library.
-/
namespace Graftcode

/-- A header map, name by name. -/
abbrev Headers := Text → Option Text

namespace Headers

def empty : Headers := fun _ => none

def set (headers : Headers) (name value : Text) : Headers := Function.update headers name (some value)

def remove (headers : Headers) (name : Text) : Headers := Function.update headers name none

def contains (headers : Headers) (name : Text) : Bool := (headers name).isSome

@[simp] theorem set_self (headers : Headers) (name value : Text) : headers.set name value name = some value :=
  Function.update_self ..

theorem set_of_ne (headers : Headers) {name other : Text} (value : Text) (h : other ≠ name) :
    headers.set name value other = headers other :=
  Function.update_of_ne h ..

@[simp] theorem remove_self (headers : Headers) (name : Text) : headers.remove name name = none :=
  Function.update_self ..

theorem remove_of_ne (headers : Headers) {name other : Text} (h : other ≠ name) :
    headers.remove name other = headers other :=
  Function.update_of_ne h ..

end Headers

/-- A connection as tracing reads it. -/
structure ConnectionData where
  connectionType : Text
  hostname : Option Text
  headers : Headers

/-- `get_headers`: the connection's own headers, overlaid by those of the thread. -/
def ConnectionData.getHeaders (connection : ConnectionData) (threadLocal : Headers) : Headers :=
  fun name => (threadLocal name).or (connection.headers name)

theorem ConnectionData.getHeaders_some (connection : ConnectionData) {threadLocal : Headers} {name value : Text}
    (h : threadLocal name = some value) : connection.getHeaders threadLocal name = some value := by
  rw [getHeaders, h]
  rfl

theorem ConnectionData.getHeaders_none (connection : ConnectionData) {threadLocal : Headers} {name : Text}
    (h : threadLocal name = none) : connection.getHeaders threadLocal name = connection.headers name := by
  rw [getHeaders, h]
  rfl

/-- A span context, its parts as they are formatted; the trace state is empty when there is none. -/
structure SpanContext where
  traceId : Text
  spanId : Text
  traceFlags : Text
  traceState : Text
  isValid : Bool
  deriving DecidableEq

namespace Tracing

def traceParentHeader : Text := "traceparent".toList

def traceStateHeader : Text := "tracestate".toList

def traceIdHeader : Text := "traceid".toList

theorem traceState_ne_traceParent : traceStateHeader ≠ traceParentHeader := by decide

theorem traceId_ne_traceParent : traceIdHeader ≠ traceParentHeader := by decide

theorem traceId_ne_traceState : traceIdHeader ≠ traceStateHeader := by decide

/-- The three headers an injection may write. -/
def IsTraceHeader (name : Text) : Prop := name = traceParentHeader ∨ name = traceStateHeader ∨ name = traceIdHeader

def traceParent (context : SpanContext) : Text :=
  "00-".toList ++ context.traceId ++ "-".toList ++ context.spanId ++ "-".toList ++ context.traceFlags

/-- The `inject` of a propagator. -/
abbrev Propagator := SpanContext → Headers → Headers

/-- It writes what a W3C propagator does: the `traceparent` of a valid context, the `tracestate` when there is one, and
no more. -/
structure Propagates (inject : Propagator) : Prop where
  traceParent : ∀ context headers, context.isValid = true →
    inject context headers traceParentHeader = some (traceParent context)
  traceState : ∀ context headers, context.isValid = true → inject context headers traceStateHeader =
    if context.traceState.isEmpty then headers traceStateHeader else some context.traceState
  others : ∀ context headers name, name ≠ traceParentHeader → name ≠ traceStateHeader →
    inject context headers name = headers name

/-- The headers `_inject_into` sets. -/
def injected (inject : Propagator) (context : SpanContext) (threadLocal : Headers) : Headers :=
  (inject context (threadLocal.remove traceStateHeader)).set traceIdHeader context.traceId

/-- The test of `_inject_into`: the context is valid, and a `traceparent` that is there is not the connection's own. -/
def injects (context : SpanContext) (connection : ConnectionData) (threadLocal : Headers) : Bool :=
  !(!context.isValid || ((connection.getHeaders threadLocal).contains traceParentHeader &&
    !threadLocal.contains traceParentHeader))

section Injected

variable {inject : Propagator} {context : SpanContext} (threadLocal : Headers)

theorem injected_traceParent (h : Propagates inject) (hvalid : context.isValid = true) :
    injected inject context threadLocal traceParentHeader = some (traceParent context) := by
  rw [injected, Headers.set_of_ne _ _ traceId_ne_traceParent.symm, h.traceParent _ _ hvalid]

theorem injected_traceId : injected inject context threadLocal traceIdHeader = some context.traceId :=
  Headers.set_self ..

theorem injected_traceState (h : Propagates inject) (hvalid : context.isValid = true) :
    injected inject context threadLocal traceStateHeader =
      if context.traceState.isEmpty then none else some context.traceState := by
  rw [injected, Headers.set_of_ne _ _ traceId_ne_traceState.symm, h.traceState _ _ hvalid, Headers.remove_self]

theorem injected_of_not_trace (h : Propagates inject) {name : Text} (hname : ¬ IsTraceHeader name) :
    injected inject context threadLocal name = threadLocal name := by
  have hp : name ≠ traceParentHeader := fun hn => hname (Or.inl hn)
  have hs : name ≠ traceStateHeader := fun hn => hname (Or.inr (Or.inl hn))
  have hi : name ≠ traceIdHeader := fun hn => hname (Or.inr (Or.inr hn))
  rw [injected, Headers.set_of_ne _ _ hi, h.others _ _ _ hp hs, Headers.remove_of_ne _ hs]

end Injected

theorem injects_iff {context : SpanContext} {connection : ConnectionData} {threadLocal : Headers} :
    injects context connection threadLocal = true ↔
      context.isValid = true ∧
        (connection.headers traceParentHeader = none ∨ threadLocal.contains traceParentHeader = true) := by
  unfold injects
  cases hc : threadLocal traceParentHeader with
  | some value => simp [Headers.contains, hc]
  | none =>
    have hg := connection.getHeaders_none hc
    simp [Headers.contains, hc, hg]

/-- The propagator of OpenTelemetry. -/
def w3cInject (context : SpanContext) (headers : Headers) : Headers :=
  if context.traceState.isEmpty then headers.set traceParentHeader (traceParent context)
  else (headers.set traceParentHeader (traceParent context)).set traceStateHeader context.traceState

theorem propagates_w3cInject : Propagates w3cInject where
  traceParent context headers _ := by
    unfold w3cInject
    split
    · exact Headers.set_self ..
    · rw [Headers.set_of_ne _ _ traceState_ne_traceParent.symm, Headers.set_self]
  traceState context headers _ := by
    unfold w3cInject
    split
    · exact Headers.set_of_ne _ _ traceState_ne_traceParent
    · exact Headers.set_self ..
  others context headers name hp hs := by
    unfold w3cInject
    split
    · exact Headers.set_of_ne _ _ hp
    · rw [Headers.set_of_ne _ _ hs, Headers.set_of_ne _ _ hp]

end Tracing
end Graftcode
