import Graftcode.CallSpanSteps
/-!
# TraceState — the `tracestate` that is sent with an injected span

The headers that `_inject_into`, `injectInto` and `InjectInto` set, with the propagator of the library in Python and
Java.  A `tracestate` left in the thread's headers belongs to another trace; .NET writes over it only when the injected
activity has one of its own.
-/
namespace Graftcode
namespace Tracing

/-- The headers of the thread once the span is injected. -/
def headersSet (write : SpanContext → Headers → Headers) (self : CallSpan) (connection : ConnectionData) (t : Thread) :
    Headers :=
  (Act.after (injectWith write self connection) t).localHeaders

/-- There is a `tracestate` exactly when the span has a trace state, and it is that. -/
def SendsOwnState (context : SpanContext) (headers : Headers) : Prop :=
  headers traceStateHeader = if context.traceState.isEmpty then none else some context.traceState

def SameTraceHeaders (headers headers' : Headers) : Prop := ∀ name, IsTraceHeader name → headers name = headers' name

def KeepsOthers (threadLocal headers : Headers) : Prop := ∀ name, ¬ IsTraceHeader name → headers name = threadLocal name

/-- A `tracestate` is in the thread's headers when a span without one is injected. -/
def Stale (context : SpanContext) (threadLocal : Headers) : Prop :=
  context.traceState = [] ∧ threadLocal traceStateHeader ≠ none

section Injected

variable {inject : Propagator} (context : SpanContext) (threadLocal : Headers)

theorem injected_sendsOwnState (h : Propagates inject) (hvalid : context.isValid = true) :
    SendsOwnState context (injected inject context threadLocal) :=
  injected_traceState threadLocal h hvalid

/-- What .NET sets, name by name. -/
theorem dotnet_injected_apply (name : Text) : Dotnet.injected context threadLocal name =
    if name = traceStateHeader then
      if context.traceState.isEmpty then threadLocal traceStateHeader else some context.traceState
    else if name = traceIdHeader then some context.traceId
    else if name = traceParentHeader then some (traceParent context)
    else threadLocal name := by
  have hbase : ∀ name,
      ((threadLocal.set traceParentHeader (traceParent context)).set traceIdHeader context.traceId) name =
      if name = traceIdHeader then some context.traceId
      else if name = traceParentHeader then some (traceParent context) else threadLocal name := by
    intro name
    by_cases hi : name = traceIdHeader
    · rw [if_pos hi, hi, Headers.set_self]
    · rw [if_neg hi, Headers.set_of_ne _ _ hi]
      by_cases hp : name = traceParentHeader
      · rw [if_pos hp, hp, Headers.set_self]
      · rw [if_neg hp, Headers.set_of_ne _ _ hp]
  unfold Dotnet.injected
  by_cases hs : name = traceStateHeader
  · rw [if_pos hs, hs]
    split
    · rw [hbase, if_neg traceId_ne_traceState.symm, if_neg traceState_ne_traceParent]
    · exact Headers.set_self ..
  · rw [if_neg hs]
    split
    · exact hbase name
    · rw [Headers.set_of_ne _ _ hs, hbase name]

theorem dotnet_sendsOwnState_iff :
    SendsOwnState context (Dotnet.injected context threadLocal) ↔ ¬ Stale context threadLocal := by
  unfold SendsOwnState Stale
  rw [dotnet_injected_apply, if_pos rfl]
  by_cases hempty : context.traceState = []
  · simp [hempty]
  · simp [hempty]

theorem dotnet_keepsOthers : KeepsOthers threadLocal (Dotnet.injected context threadLocal) := by
  intro name hname
  have hp : name ≠ traceParentHeader := fun hn => hname (Or.inl hn)
  have hs : name ≠ traceStateHeader := fun hn => hname (Or.inr (Or.inl hn))
  have hi : name ≠ traceIdHeader := fun hn => hname (Or.inr (Or.inr hn))
  rw [dotnet_injected_apply, if_neg hs, if_neg hi, if_neg hp]

theorem dotnet_sameTraceHeaders_iff (h : Propagates inject) (hvalid : context.isValid = true) :
    SameTraceHeaders (injected inject context threadLocal) (Dotnet.injected context threadLocal) ↔
      SendsOwnState context (Dotnet.injected context threadLocal) := by
  have hown := injected_sendsOwnState context threadLocal h hvalid
  constructor
  · intro hsame
    exact (hsame traceStateHeader (Or.inr (Or.inl rfl))).symm.trans hown
  · rintro hdotnet name (rfl | rfl | rfl)
    · rw [injected_traceParent threadLocal h hvalid, dotnet_injected_apply, if_neg traceState_ne_traceParent.symm,
        if_neg traceId_ne_traceParent.symm, if_pos rfl]
    · exact hown.trans hdotnet.symm
    · rw [injected_traceId, dotnet_injected_apply, if_neg traceId_ne_traceState, if_pos rfl]

end Injected

/-- The three injections of one span, on one connection and thread: each sends the span's own trace state, all send the
same trace headers, and each keeps the other headers of the thread. -/
structure Agrees (python java : Propagator) (callSpan : CallSpan) (connection : ConnectionData)
    (t : Thread) : Prop where
  sendsOwnState : ∀ write ∈ [injected python, injected java, Dotnet.injected],
    SendsOwnState callSpan.span.context (headersSet write callSpan connection t)
  sameTraceHeaders : ∀ write ∈ [injected java, Dotnet.injected],
    SameTraceHeaders (headersSet (injected python) callSpan connection t) (headersSet write callSpan connection t)
  keepsOthers : ∀ write ∈ [injected python, injected java, Dotnet.injected],
    KeepsOthers t.localHeaders (headersSet write callSpan connection t)

theorem headersSet_injects {write : SpanContext → Headers → Headers} {self : CallSpan} {connection : ConnectionData}
    {t : Thread} (h : injects self.span.context connection t.localHeaders = true) :
    headersSet write self connection t = write self.span.context t.localHeaders := by
  rw [headersSet, Act.after_ok (injectWith_injects h)]

/-- **No stale `tracestate` is sent**, but by .NET when one is there and the activity has none. -/
theorem injections_agree_iff {python java : Propagator} (hpython : Propagates python)
    (hjava : Propagates java) {self : CallSpan} {connection : ConnectionData} {t : Thread}
    (hinjects : injects self.span.context connection t.localHeaders = true) :
    Agrees python java self connection t ↔ ¬ Stale self.span.context t.localHeaders := by
  have hvalid := (injects_iff.1 hinjects).1
  rw [← dotnet_sendsOwnState_iff]
  constructor
  · intro h
    have hdotnet := h.sendsOwnState Dotnet.injected (by simp)
    rwa [headersSet_injects hinjects] at hdotnet
  · intro hdotnet
    have hown := injected_sendsOwnState self.span.context t.localHeaders hjava hvalid
    refine ⟨?_, ?_, ?_⟩
    · simp only [List.forall_mem_cons, headersSet_injects hinjects]
      exact ⟨injected_sendsOwnState _ _ hpython hvalid, hown, hdotnet, fun _ h => absurd h List.not_mem_nil⟩
    · simp only [List.forall_mem_cons, headersSet_injects hinjects]
      refine ⟨?_, (dotnet_sameTraceHeaders_iff _ _ hpython hvalid).2 hdotnet, fun _ h => absurd h List.not_mem_nil⟩
      rintro name (rfl | rfl | rfl)
      · rw [injected_traceParent _ hpython hvalid, injected_traceParent _ hjava hvalid]
      · exact (injected_sendsOwnState _ _ hpython hvalid).trans hown.symm
      · rw [injected_traceId, injected_traceId]
    · simp only [List.forall_mem_cons, headersSet_injects hinjects]
      exact ⟨fun _ => injected_of_not_trace _ hpython, fun _ => injected_of_not_trace _ hjava, dotnet_keepsOthers _ _,
        fun _ h => absurd h List.not_mem_nil⟩

def ownSpan : CallSpan :=
  { span := ⟨0, ⟨"0af7".toList, "b7ad".toList, "01".toList, [], true⟩, true⟩, token := none }

/-- A `tracestate` and a `traceparent` of another trace. -/
def leftOver : Thread :=
  { localHeaders :=
      (Headers.empty.set traceParentHeader "00-4bf9-00f0-01".toList).set traceStateHeader "other=1".toList }

/-- A span with a trace state of its own. -/
def statefulSpan : CallSpan :=
  { span := ⟨0, ⟨"0af7".toList, "b7ad".toList, "01".toList, "own=2".toList, true⟩, true⟩, token := none }

theorem injections_agree_iff_stateful : Agrees w3cInject w3cInject statefulSpan plain leftOver :=
  (injections_agree_iff propagates_w3cInject propagates_w3cInject (by decide)).2 fun h => by cases h.1

/-- .NET sends the left-over `tracestate` with the new `traceparent`. -/
theorem not_injections_agree_leftOver :
    injects ownSpan.span.context plain leftOver.localHeaders = true ∧
      ¬ Agrees w3cInject w3cInject ownSpan plain leftOver := by
  have hinjects : injects ownSpan.span.context plain leftOver.localHeaders = true := by decide
  refine ⟨hinjects, fun h => ?_⟩
  have hdotnet := h.sendsOwnState Dotnet.injected (by simp)
  rw [headersSet_injects hinjects] at hdotnet
  revert hdotnet
  unfold SendsOwnState
  decide

end Tracing
end Graftcode
