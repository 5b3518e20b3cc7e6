import Graftcode.CallSpanSteps
/-!
# CallSpanFailures — what a failing step leaves of a call's trace state

Python and Java put the context back and end the span in a `finally`, but give the headers back inside the `try`; a
start is not protected at all.  .NET protects neither.  So a failure leaves nothing behind exactly when it is in the
completion of a span that Python or Java did not inject.
-/
namespace Graftcode
namespace Tracing

open Act

inductive Port where
  | python | java | dotnet
  deriving DecidableEq

/-- One call: how it begins and ends, and what its start and its completion meet outside. -/
structure Call where
  opening : Opening
  response : Option Command
  exception : Option Thrown
  starting : Instruments
  completing : Instruments

/-- What starts spans: a tracer, or the source of .NET's activities. -/
structure Telemetry where
  tracer : Tracer
  inject : Propagator
  source : Dotnet.Source
  settings : Settings

namespace Port

variable (telemetry : Telemetry) (call : Call)

def source : Port → Dotnet.Source
  | python | java => telemetry.tracer.source
  | dotnet        => telemetry.source

def present : Port → Text → Option Text → List Step
  | python | java => presentSteps
  | dotnet        => tagSteps

def write (i : Instruments) (span : Span) : Port → Text → Option Text → Act Unit
  | python | java => setIfPresent i span
  | dotnet        => Dotnet.setTag i span

theorem takes_write (port : Port) (i : Instruments) (span : Span) (key : Text) (value : Option Text) :
    Takes i (port.present key value) (port.write i span key value) () := by
  cases port with
  | python => exact takes_setIfPresent span key value
  | java   => exact takes_setIfPresent span key value
  | dotnet => exact takes_setTag span key value

def injected : Port → SpanContext → Headers → Headers
  | python | java => Tracing.injected telemetry.inject
  | dotnet        => Dotnet.injected

def start : Port → Act (Option CallSpan)
  | python | java => call.opening.act telemetry.tracer telemetry.inject telemetry.settings call.starting
  | dotnet        => call.opening.dotnetAct telemetry.source telemetry.settings call.starting

/-- The thread `complete` leaves, whether it returns or raises. -/
def completed (callSpan : CallSpan) (t : Thread) : Port → Thread
  | python =>
    (after (complete telemetry.settings call.completing detach call.response call.exception) (callSpan, t)).2
  | java   =>
    (after (complete telemetry.settings call.completing closeScope call.response call.exception) (callSpan, t)).2
  | dotnet =>
    after (Dotnet.complete telemetry.settings call.completing callSpan call.response call.exception) t

def span (port : Port) (t : Thread) : Option Span := call.opening.span (port.source telemetry) t

def startSteps (port : Port) (span : Span) : List Step :=
  call.opening.steps call.starting telemetry.settings port.present span

def completeSteps (port : Port) (span : Span) : List Step :=
  responseSteps telemetry.settings span call.response ++ concludeSteps call.completing port.present call.exception

end Port

/-- Headers and context are those of `t`, and the span that started there has ended. -/
structure Clean (t t' : Thread) : Prop where
  headers : t'.localHeaders = t.localHeaders
  current : t'.current = t.current
  ended : t.started ∉ t'.live

/-- A start that raises leaves the thread clean, and so does the completion of the span it answers, in any state whose
headers and context are those it left. -/
def LeavesNothing (port : Port) (telemetry : Telemetry) (call : Call) (t : Thread) : Prop :=
  match port.start telemetry call t with
  | .error _ t'         => Clean t t'
  | .ok none t'         => t'.localHeaders = t.localHeaders ∧ t'.current = t.current
  | .ok (some callSpan) t' =>
    ∀ t₂ : Thread, t₂.localHeaders = t'.localHeaders → t₂.current = t'.current → callSpan.span.number ∈ t₂.live →
      Clean t (port.completed telemetry call callSpan t₂)

/-- The injection sets no header that was not there. -/
def Uninjected (port : Port) (telemetry : Telemetry) (call : Call) (t : Thread) (span : Span) : Prop :=
  call.opening.into telemetry.settings span t = none ∨
    port.injected telemetry span.context t.localHeaders = t.localHeaders

/-- Nothing raises in the start once the span has started, nor in the completion, where Python and Java let a span raise
that was not injected. -/
def Unharmed (port : Port) (telemetry : Telemetry) (call : Call) (t : Thread) : Prop :=
  ∀ span, port.span telemetry call t = some span →
    (∀ step ∈ port.startSteps telemetry call span, ¬ call.starting.Fails step) ∧
    ((∀ step ∈ port.completeSteps telemetry call span, ¬ call.completing.Fails step) ∨
      port ≠ .dotnet ∧ Uninjected port telemetry call t span)

theorem start_starts (port : Port) (telemetry : Telemetry) (call : Call) (t : Thread) :
    Starts call.starting telemetry.settings port.present (port.injected telemetry) (port.source telemetry)
      call.opening t (port.start telemetry call) := by
  cases port with
  | python => exact act_starts telemetry.tracer telemetry.inject call.opening t
  | java   => exact act_starts telemetry.tracer telemetry.inject call.opening t
  | dotnet => exact dotnetAct_starts telemetry.source call.opening t

/-! ## Completing the span -/

section Completed

variable {port : Port} {telemetry : Telemetry} {call : Call} {self : CallSpan} {t t' : Thread}

theorem completed_of_settled (hfresh : self.completed = false)
    (h : settle call.completing telemetry.settings (port.write call.completing self.span) self call.response
      call.exception t = .ok () t') (hcurrent : t'.current = some self.span) (hlive : self.span.number ∈ t'.live) :
    port.completed telemetry call self t = t'.close self := by
  cases port with
  | python =>
    simp only [Port.write] at h
    exact (congrArg Prod.snd (after_complete detach hfresh _ _ t)).trans (by rw [after_ok h, after_detach])
  | java   =>
    simp only [Port.write] at h
    exact (congrArg Prod.snd (after_complete closeScope hfresh _ _ t)).trans
      (by rw [after_ok h, after_closeScope hcurrent])
  | dotnet =>
    simp only [Port.write] at h
    exact (after_congr (bind_ok h)).trans (after_dispose hlive)

/-- A completion that raises still closes the span in Python and Java, -/
theorem completed_of_raised (hport : port ≠ .dotnet) (hfresh : self.completed = false) {e : Failure}
    (h : settle call.completing telemetry.settings (port.write call.completing self.span) self call.response
      call.exception t = .error e t') (hcurrent : t'.current = some self.span) :
    port.completed telemetry call self t = t'.close self := by
  cases port with
  | python =>
    simp only [Port.write] at h
    exact (congrArg Prod.snd (after_complete detach hfresh _ _ t)).trans (by rw [after_error h, after_detach])
  | java   =>
    simp only [Port.write] at h
    exact (congrArg Prod.snd (after_complete closeScope hfresh _ _ t)).trans
      (by rw [after_error h, after_closeScope hcurrent])
  | dotnet => exact absurd rfl hport

/-- and does nothing more in .NET. -/
theorem completed_of_raised_dotnet {e : Failure}
    (h : settle call.completing telemetry.settings (Port.dotnet.write call.completing self.span) self call.response
      call.exception t = .error e t') :
    Port.dotnet.completed telemetry call self t = t' := by
  simp only [Port.write] at h
  exact after_error (bind_error h)

theorem close_clean (hnumber : self.span.number = t.started) (htoken : self.token = t.current)
    (h : t'.localHeaders = t.localHeaders) : Clean t (t'.close self) where
  headers := h
  current := htoken
  ended := by
    intro hmem
    have hne := (List.mem_filter.1 hmem).2
    rw [hnumber] at hne
    simp at hne

end Completed

/-! ## The whole call -/

section Whole

variable {port : Port} {telemetry : Telemetry} {call : Call} {self : CallSpan} {span : Span} {t t' : Thread}

/-- What a completion makes of the thread that the start of its span left. -/
theorem completed_clean_iff (hspan : port.span telemetry call t = some span)
    (ho : Opened (port.injected telemetry) (call.opening.into telemetry.settings span t) span t self t') :
    (∀ t₂ : Thread, t₂.localHeaders = t'.localHeaders → t₂.current = t'.current → self.span.number ∈ t₂.live →
        Clean t (port.completed telemetry call self t₂)) ↔
      (∀ step ∈ port.completeSteps telemetry call span, ¬ call.completing.Fails step) ∨
        port ≠ .dotnet ∧ Uninjected port telemetry call t span := by
  obtain rfl := ho.span_eq
  have hnumber : self.span.number = t.started := Opening.span_number hspan
  have hcurrent : ∀ t₂ t₃ : Thread, t₂.current = t'.current → Quiet t₂ t₃ → t₃.current = some self.span :=
    fun t₂ t₃ h q => (q.2.1.trans h).trans ho.current
  by_cases hany : ∃ step ∈ port.completeSteps telemetry call self.span, call.completing.Fails step
  · have hraise := fun t₂ => settle_fails (port.takes_write call.completing self.span) self call.response
      call.exception t₂ hany
    constructor
    · intro hclean
      refine Or.inr ?_
      have hmem : self.span.number ∈ t'.live := by rw [ho.live, hnumber]; exact List.mem_cons_self
      have hc := hclean t' rfl rfl hmem
      obtain ⟨e, t₃, q, hsettle⟩ := hraise t'
      by_cases hport : port = .dotnet
      · subst hport
        rw [completed_of_raised_dotnet hsettle] at hc
        exact absurd (by rw [q.2.2.2, ← hnumber]; exact hmem) hc.ended
      · rw [completed_of_raised hport ho.fresh hsettle (hcurrent t' t₃ rfl q)] at hc
        have hh : t'.localHeaders = t.localHeaders := q.1.symm.trans hc.headers
        rw [ho.headers] at hh
        refine ⟨hport, ?_⟩
        unfold Uninjected
        split at hh
        · exact Or.inl ‹_›
        · exact Or.inr hh
    · rintro (hcalm | ⟨hport, hun⟩) t₂ h₂ hc₂ hl₂
      · obtain ⟨step, hs, hf⟩ := hany
        exact absurd hf (hcalm step hs)
      · obtain ⟨e, t₃, q, hsettle⟩ := hraise t₂
        rw [completed_of_raised hport ho.fresh hsettle (hcurrent t₂ t₃ hc₂ q)]
        apply close_clean hnumber ho.token
        rw [q.1, h₂, ho.headers]
        rcases hun with hnone | hsame
        · rw [if_pos hnone]
        · rw [hsame, ite_self]
  · have hcalm : ∀ step ∈ port.completeSteps telemetry call self.span, ¬ call.completing.Fails step :=
      fun step hs hf => hany ⟨step, hs, hf⟩
    refine ⟨fun _ => Or.inl hcalm, fun _ t₂ h₂ hc₂ hl₂ => ?_⟩
    obtain ⟨t₃, q, hsettle⟩ := settle_calm (port.takes_write call.completing self.span) self call.response
      call.exception t₂ hcalm
    have hlive : self.span.number ∈ (self.restored t₃).live := q.2.2.2 ▸ hl₂
    rw [completed_of_settled ho.fresh hsettle (hcurrent t₂ t₃ hc₂ q) hlive]
    apply close_clean hnumber ho.token
    show self.before t₃.localHeaders = _
    rw [q.1, h₂, ho.before]

/-- **A failure leaves nothing behind exactly in the calls that are unharmed.** -/
theorem leavesNothing_iff (port : Port) (telemetry : Telemetry) (call : Call) (t : Thread) :
    LeavesNothing port telemetry call t ↔ Unharmed port telemetry call t := by
  have hs := start_starts port telemetry call t
  unfold Starts at hs
  unfold LeavesNothing Unharmed
  cases hspan : call.opening.span (port.source telemetry) t with
  | none      =>
    rw [hspan] at hs
    rw [hs]
    have hnone : ∀ span, port.span telemetry call t ≠ some span := fun span h => by
      rw [Port.span, hspan] at h
      cases h
    exact ⟨fun _ span h => absurd h (hnone span), fun _ => ⟨rfl, rfl⟩⟩
  | some span =>
    rw [hspan] at hs
    obtain ⟨calm, raises⟩ := hs
    have hone : ∀ P : Span → Prop, (∀ s, port.span telemetry call t = some s → P s) ↔ P span := by
      intro P
      rw [Port.span, hspan]
      exact ⟨fun h => h span rfl, fun h s hs => by cases hs; exact h⟩
    rw [hone]
    by_cases hany : ∃ step ∈ port.startSteps telemetry call span, call.starting.Fails step
    · obtain ⟨e, t', herr, hlive, -⟩ := raises hany
      rw [herr]
      refine ⟨fun hc => absurd (by rw [hlive]; exact List.mem_cons_self) hc.ended, fun ⟨hcalm, _⟩ => ?_⟩
      obtain ⟨step, hs, hf⟩ := hany
      exact absurd hf (hcalm step hs)
    · have hcalm : ∀ step ∈ port.startSteps telemetry call span, ¬ call.starting.Fails step :=
        fun step hs hf => hany ⟨step, hs, hf⟩
      obtain ⟨self, t', hok, ho⟩ := calm hcalm
      rw [hok]
      exact (completed_clean_iff hspan ho).trans ⟨fun h => ⟨hcalm, h⟩, fun h => h.2⟩

end Whole

/-! ## An injected call whose response cannot be rendered -/

def unrenderable : Instruments := { calm with raises := fun | .render _ => some [] | _ => none }

def recorded : SpanContext :=
  ⟨"0af7651916cd43dd8448eb211c80319c".toList, "b7ad6b7169203331".toList, "01".toList, [], true⟩

def capturing : Telemetry where
  tracer _ _ _ _ := (recorded, true)
  inject := w3cInject
  source _ _ _ _ := some (recorded, true)
  settings := { isBodyCaptureEnabled := true }

def fetching : Call := ⟨.invoke fetch plain, some fetch, none, calm, unrenderable⟩

theorem not_leavesNothing_unrenderable : ¬ LeavesNothing .python capturing fetching {} := by
  intro h
  have hspan : Port.python.span capturing fetching {} = some ⟨0, recorded, true⟩ := by
    simp only [Port.span, Opening.span, fetching, Opening.command, resolve_fetch]
    rfl
  have hs := start_starts .python capturing fetching {}
  unfold Starts at hs
  rw [← Port.span, hspan] at hs
  obtain ⟨self, t', hok, ho⟩ := hs.1 (by
    rintro step - ⟨failure, hf⟩
    cases hf)
  unfold LeavesNothing at h
  rw [hok] at h
  rcases (completed_clean_iff hspan ho).1 h with hcalm | ⟨-, hnone | hsame⟩
  · exact hcalm (.render responseBody) List.mem_cons_self ⟨[], rfl⟩
  · cases hnone
  · have hp := congrFun hsame traceParentHeader
    cases (injected_traceParent Headers.empty propagates_w3cInject rfl).symm.trans hp

end Tracing
end Graftcode
