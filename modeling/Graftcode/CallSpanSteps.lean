import Graftcode.CallSpan
/-!
# CallSpanSteps — what each part of a call span may raise, and what it changes

Attributes, redactions and bodies touch nothing but what is exported (`Quiet`), so a part of a call is the list of its
steps: it raises exactly when one of them does.  What a start that raises nothing leaves is `Opened`.
-/
namespace Graftcode
namespace Tracing

open Act

/-- Only what is exported differs. -/
def Quiet (t t' : Thread) : Prop :=
  t'.localHeaders = t.localHeaders ∧ t'.current = t.current ∧ t'.started = t.started ∧ t'.live = t.live

theorem Quiet.refl (t : Thread) : Quiet t t := ⟨rfl, rfl, rfl, rfl⟩

theorem Quiet.trans {t u v : Thread} (h : Quiet t u) (h' : Quiet u v) : Quiet t v :=
  ⟨h'.1.trans h.1, h'.2.1.trans h.2.1, h'.2.2.1.trans h.2.2.1, h'.2.2.2.trans h.2.2.2⟩

def Instruments.Fails (i : Instruments) (step : Step) : Prop := ∃ failure, i.raises step = some failure

/-! ## The steps of each part -/

section Steps

variable (i : Instruments) (settings : Settings)

def presentSteps (key : Text) : Option Text → List Step
  | some _ => [.setAttribute key]
  | none   => []

def bodySteps (bodyKey truncatedKey : Text) : Option (Text × Bool) → List Step
  | none                => []
  | some (_, truncated) => .setAttribute bodyKey :: if truncated then [.setAttribute truncatedKey] else []

def captureSteps (span : Span) (command : Command) (bodyKey truncatedKey : Text) : List Step :=
  if !span.isRecording || !settings.isBodyCaptureEnabled then []
  else .render bodyKey :: bodySteps bodyKey truncatedKey command.body

def responseSteps (span : Span) : Option Command → List Step
  | none          => []
  | some response => captureSteps settings span response responseBody responseBodyTruncated

/-- The steps of `describe`, where `present` are those of `write`. -/
def describeSteps (present : Text → Option Text → List Step) (command : Command) (operation : Text)
    (connection : ConnectionData) : List Step :=
  present "hypertube.runtime".toList (some command.runtimeName) ++
  present "hypertube.command_type".toList (some command.commandType) ++
  present "hypertube.connection_type".toList (some connection.connectionType) ++
  present dependencyType (some bridgeDependencyType) ++
  [.redactValue dependencyTarget] ++ present dependencyTarget (i.redactValue (some command.target)) ++
  [.redactValue "hypertube.operation".toList] ++
  present "hypertube.operation".toList (i.redactValue (some operation)) ++
  [.redactTarget] ++ [.redactValue "hypertube.target".toList] ++
  present "hypertube.target".toList (i.redactValue (i.redactTarget connection.hostname))

def concludeSteps (present : Text → Option Text → List Step) : Option Thrown → List Step
  | none           => [.setStatus]
  | some exception =>
    [.redactValue "exception.message".toList] ++ present "exception.type".toList (some exception.typeName) ++
      present "exception.message".toList (i.redactValue exception.message) ++ [.setStatus]

/-- .NET sets a tag whether it has a value or not. -/
def tagSteps (key : Text) (_ : Option Text) : List Step := [.setAttribute key]

end Steps

/-! ## Each part performs its steps -/

/-- `x` takes these steps, answers `a`, and is quiet. -/
abbrev Takes (i : Instruments) {α : Type} (steps : List Step) (x : Act α) (a : α) : Prop :=
  Performs Quiet i.Fails steps x a

section Performs

variable {i : Instruments} {α β : Type}

theorem Takes.bind {steps steps' : List Step} {x : Act α} {a : α} {f : α → Act β} {b : β} (hx : Takes i steps x a)
    (hf : Takes i steps' (f a) b) : Takes i (steps ++ steps') (x >>= f) b :=
  Performs.bind (fun _ _ _ => Quiet.trans) hx hf

theorem takes_pure (a : α) : Takes i [] (pure a : Act α) a := performs_pure Quiet.refl a

theorem takes_attempt (step : Step) : Takes i [step] (attempt i step) () := by
  intro t
  simp only [List.mem_singleton, forall_eq, exists_eq_left, Instruments.Fails, attempt]
  cases i.raises step with
  | none         => exact ⟨fun _ => ⟨t, rfl, Quiet.refl t⟩, fun h => by simp at h⟩
  | some failure => exact ⟨fun h => absurd ⟨failure, rfl⟩ h, fun _ => ⟨failure, t, rfl, Quiet.refl t⟩⟩

theorem takes_export (record : Exported) : Takes i [] (export_ record) () :=
  fun t => ⟨fun _ => ⟨{ t with exported := t.exported ++ [record] }, rfl, rfl, rfl, rfl, rfl⟩,
    fun ⟨_, h, _⟩ => absurd h List.not_mem_nil⟩

theorem takes_setAttribute (span : Span) (key value : Text) :
    Takes i [.setAttribute key] (setAttribute i span key value) () :=
  (takes_attempt _).bind (takes_export _)

theorem takes_setFlag (span : Span) (key : Text) : Takes i [.setAttribute key] (setFlag i span key) () :=
  (takes_attempt _).bind (takes_export _)

theorem takes_setIfPresent (span : Span) (key : Text) :
    ∀ value, Takes i (presentSteps key value) (setIfPresent i span key value) ()
  | some value => takes_setAttribute span key value
  | none       => takes_pure ()

theorem takes_setStatus (span : Span) (ok : Bool) (description : Text) :
    Takes i [.setStatus] (setStatus i span ok description) () :=
  (takes_attempt _).bind (takes_export _)

theorem takes_redactValue (key : Text) (value : Option Text) :
    Takes i [.redactValue key] (redactValue i key value) (i.redactValue value) :=
  (takes_attempt _).bind (takes_pure _)

theorem takes_redactTarget (hostname : Option Text) :
    Takes i [.redactTarget] (redactTarget i hostname) (i.redactTarget hostname) :=
  (takes_attempt _).bind (takes_pure _)

theorem takes_setTag (activity : Span) (key : Text) (value : Option Text) :
    Takes i (tagSteps key value) (Dotnet.setTag i activity key value) () := by
  cases value with
  | none       => exact (takes_attempt _).bind (takes_pure ())
  | some value => exact (takes_attempt _).bind (takes_export _)

theorem takes_setBody (span : Span) (bodyKey truncatedKey : Text) :
    ∀ body, Takes i (bodySteps bodyKey truncatedKey body) (setBody i span bodyKey truncatedKey body) ()
  | none        => takes_pure ()
  | some (_, _) =>
    (takes_setAttribute span bodyKey _).bind (Performs.ite (takes_setFlag span truncatedKey) (takes_pure ()))

theorem takes_capture (settings : Settings) (span : Span) (command : Command) (bodyKey truncatedKey : Text) :
    Takes i (captureSteps settings span command bodyKey truncatedKey)
      (capture i settings span command bodyKey truncatedKey) () :=
  Performs.ite (takes_pure ()) ((takes_attempt _).bind (takes_setBody span bodyKey truncatedKey command.body))

theorem takes_captureResponse (settings : Settings) (span : Span) :
    ∀ response, Takes i (responseSteps settings span response) (captureResponse i settings span response) ()
  | none          => takes_pure ()
  | some response => takes_capture settings span response responseBody responseBodyTruncated

theorem takes_describe {present : Text → Option Text → List Step} {write : Text → Option Text → Act Unit}
    (hw : ∀ key value, Takes i (present key value) (write key value) ()) (command : Command) (operation : Text)
    (connection : ConnectionData) :
    Takes i (describeSteps i present command operation connection)
      (describe i write command operation connection) () := by
  unfold describeSteps describe
  simp only [List.append_assoc]
  refine (hw _ _).bind ((hw _ _).bind ((hw _ _).bind ((hw _ _).bind ?_)))
  refine (takes_redactValue _ _).bind ((hw _ _).bind ?_)
  refine (takes_redactValue _ _).bind ((hw _ _).bind ?_)
  exact (takes_redactTarget _).bind ((takes_redactValue _ _).bind (hw _ _))

theorem takes_conclude {present : Text → Option Text → List Step} {write : Text → Option Text → Act Unit}
    (hw : ∀ key value, Takes i (present key value) (write key value) ()) (span : Span) :
    ∀ exception, Takes i (concludeSteps i present exception) (conclude i write span exception) ()
  | none           => takes_setStatus span true []
  | some exception => by
    unfold concludeSteps conclude
    simp only [List.append_assoc]
    refine (takes_redactValue _ _).bind ((hw _ _).bind ((hw _ _).bind ?_))
    exact takes_setStatus span false _

end Performs

/-! ## Opening a span -/

/-- A call as a thread takes part in it: the caller's side, or the called one with the headers it was sent. -/
inductive Opening where
  | invoke (command : Command) (connection : ConnectionData)
  | handle (command : Command) (headers : Headers)

namespace Opening

def command : Opening → Command
  | invoke command _ | handle command _ => command

def name (operation : Text) : Opening → Text
  | invoke command _ => invokeName command
  | handle _ _       => operation

/-- The headers its parent is looked for in. -/
def carrier (t : Thread) : Opening → Headers
  | invoke _ connection => connection.getHeaders t.localHeaders
  | handle _ headers    => headers

/-- The span it starts, if any. -/
def span (source : Dotnet.Source) (opening : Opening) (t : Thread) : Option Span :=
  match resolveOperation opening.command with
  | none           => none
  | some operation =>
    (source (opening.name operation) (opening.carrier t) t.current t.started).map fun answer =>
      ⟨t.started, answer.1, answer.2⟩

theorem span_number {source : Dotnet.Source} {opening : Opening} {t : Thread} {span : Span}
    (h : opening.span source t = some span) : span.number = t.started := by
  unfold Opening.span at h
  split at h
  · cases h
  · obtain ⟨answer, -, rfl⟩ := Option.map_eq_some_iff.1 h
    rfl

/-- What may raise once the span has started. -/
def steps (i : Instruments) (settings : Settings) (present : Text → Option Text → List Step) (span : Span) :
    Opening → List Step
  | invoke command connection =>
    (if span.isRecording then describeSteps i present command command.operation connection else []) ++
      captureSteps settings span command requestBody requestBodyTruncated
  | handle command _          => captureSteps settings span command requestBody requestBodyTruncated

/-- The connection the span is injected into. -/
def into (settings : Settings) (span : Span) (t : Thread) : Opening → Option ConnectionData
  | invoke _ connection =>
    if settings.isAutoInjectEnabled && injects span.context connection t.localHeaders then some connection else none
  | handle _ _          => none

end Opening

theorem resolveOperation_eq {command : Command} {operation : Text} (h : resolveOperation command = some operation) :
    operation = command.operation := by
  unfold resolveOperation at h
  split at h
  · cases h
  split at h
  · cases h
  exact (Option.some.inj h).symm

/-- The headers before the injection, when there was one. -/
def CallSpan.before (self : CallSpan) (headers : Headers) : Headers :=
  match self.injectedInto with
  | none   => headers
  | some _ => self.previousHeaders

/-- What a start leaves: the span is current and has not ended, and the headers are written if it was injected. -/
structure Opened (write : SpanContext → Headers → Headers) (into : Option ConnectionData) (span : Span) (t : Thread)
    (callSpan : CallSpan) (t' : Thread) : Prop where
  span_eq : callSpan.span = span
  token : callSpan.token = t.current
  fresh : callSpan.completed = false
  injectedInto : callSpan.injectedInto = into
  previousHeaders : into ≠ none → callSpan.previousHeaders = t.localHeaders
  headers : t'.localHeaders = if into = none then t.localHeaders else write span.context t.localHeaders
  current : t'.current = some span
  started : t'.started = t.started + 1
  live : t'.live = t.started :: t.live

theorem Opened.before {write : SpanContext → Headers → Headers} {into : Option ConnectionData} {span : Span}
    {t t' : Thread} {self : CallSpan} (h : Opened write into span t self t') :
    self.before t'.localHeaders = t.localHeaders := by
  unfold CallSpan.before
  rw [h.injectedInto]
  cases into with
  | none   => exact h.headers
  | some _ => exact h.previousHeaders (by simp)

/-- From `t₁` on, the start that began in `t` answers a call span when no step fails, and raises, the span still live
and the headers as they were, when one does. -/
def Opens (i : Instruments) (steps : List Step) (write : SpanContext → Headers → Headers) (into : Option ConnectionData)
    (span : Span) (t t₁ : Thread) (x : Act (Option CallSpan)) : Prop :=
  ((∀ step ∈ steps, ¬ i.Fails step) → ∃ self t', x t₁ = .ok (some self) t' ∧ Opened write into span t self t') ∧
  ((∃ step ∈ steps, i.Fails step) →
    ∃ e t', x t₁ = .error e t' ∧ t'.live = t.started :: t.live ∧ t'.localHeaders = t.localHeaders)

section Opens

variable {i : Instruments} {write : SpanContext → Headers → Headers} {into : Option ConnectionData} {span : Span}
  {t t₁ t₂ : Thread} {self : CallSpan} {steps steps' : List Step}

theorem Opened.quiet (h : Opened write into span t self t₁) (hq : Quiet t₁ t₂) : Opened write into span t self t₂ := by
  obtain ⟨headers, current, started, live⟩ := hq
  exact { h with
    headers := headers.trans h.headers
    current := current.trans h.current
    started := started.trans h.started
    live := live.trans h.live }

theorem Opens.after {α : Type} {x : Act α} {a : α} {f : α → Act (Option CallSpan)} (hx : Takes i steps x a)
    (hlive : t₁.live = t.started :: t.live) (hheaders : t₁.localHeaders = t.localHeaders)
    (hf : ∀ t₂, Quiet t₁ t₂ → Opens i steps' write into span t t₂ (f a)) :
    Opens i (steps ++ steps') write into span t t₁ (x >>= f) := by
  obtain ⟨calm, raises⟩ := hx t₁
  constructor
  · intro h
    obtain ⟨t₂, h₂, hq⟩ := calm fun step hs => h step (List.mem_append_left _ hs)
    obtain ⟨self, t', hok, ho⟩ := (hf t₂ hq).1 fun step hs => h step (List.mem_append_right _ hs)
    exact ⟨self, t', by rw [bind_ok h₂, hok], ho⟩
  · rintro ⟨step, hs, hfail⟩
    by_cases hany : ∃ step ∈ steps, i.Fails step
    · obtain ⟨e, t₂, h₂, hq⟩ := raises hany
      exact ⟨e, t₂, bind_error h₂, hq.2.2.2.trans hlive, hq.1.trans hheaders⟩
    · obtain ⟨t₂, h₂, hq⟩ := calm fun step hs hf => hany ⟨step, hs, hf⟩
      have hs' : step ∈ steps' := (List.mem_append.1 hs).resolve_left fun h => hany ⟨step, h, hfail⟩
      obtain ⟨e, t', herr, hl⟩ := (hf t₂ hq).2 ⟨step, hs', hfail⟩
      exact ⟨e, t', by rw [bind_ok h₂, herr], hl⟩

theorem opens_pure (h : Opened write into span t self t₁) :
    Opens i [] write into span t t₁ (pure (some self)) :=
  ⟨fun _ => ⟨self, t₁, rfl, h⟩, fun ⟨_, hs, _⟩ => absurd hs List.not_mem_nil⟩

theorem Opens.of_eq {x y : Act (Option CallSpan)} (h : x t₁ = y t₂) (hy : Opens i steps write into span t t₂ y) :
    Opens i steps write into span t t₁ x := by
  unfold Opens
  rw [h]
  exact hy

theorem opens_handle (settings : Settings) (command : Command) (h : Opened write none span t self t₁) :
    Opens i (captureSteps settings span command requestBody requestBodyTruncated) write none span t t₁ (do
      capture i settings self.span command requestBody requestBodyTruncated
      pure (some self)) := by
  obtain rfl := h.span_eq
  rw [← List.append_nil (captureSteps _ _ _ _ _)]
  exact Opens.after (takes_capture settings self.span command _ _) h.live h.headers fun t₂ hq => opens_pure (h.quiet hq)

theorem injectWith_injects {connection : ConnectionData} {t : Thread}
    (h : injects self.span.context connection t.localHeaders = true) :
    injectWith write self connection t = .ok
      { self with injectedInto := some connection, previousHeaders := t.localHeaders }
      { t with localHeaders := write self.span.context t.localHeaders } := by
  show (if _ then _ else _ : Act CallSpan) t = _
  rw [if_pos h]
  rfl

theorem injectWith_of_not {connection : ConnectionData} {t : Thread}
    (h : ¬ injects self.span.context connection t.localHeaders = true) :
    injectWith write self connection t = .ok self t := by
  show (if _ then _ else _ : Act CallSpan) t = _
  rw [if_neg h]
  rfl

theorem opens_invoke (settings : Settings) (command : Command) (connection : ConnectionData)
    (h : Opened write none span t self t₁) :
    Opens i (captureSteps settings span command requestBody requestBodyTruncated) write
      ((Opening.invoke command connection).into settings span t) span t t₁ (do
        capture i settings self.span command requestBody requestBodyTruncated
        if settings.isAutoInjectEnabled then do
          let callSpan ← injectWith write self connection
          pure (some callSpan)
        else pure (some self)) := by
  obtain rfl := h.span_eq
  rw [← List.append_nil (captureSteps _ _ _ _ _)]
  refine Opens.after (takes_capture settings self.span command _ _) h.live h.headers fun t₂ hq => ?_
  have h₂ := h.quiet hq
  have hl : t₂.localHeaders = t.localHeaders := by rw [h₂.headers, if_pos rfl]
  unfold Opening.into
  cases settings.isAutoInjectEnabled with
  | false => exact opens_pure h₂
  | true  =>
    simp only [if_true, Bool.true_and, ← hl]
    refine ⟨fun _ => ?_, fun ⟨_, hs, _⟩ => absurd hs List.not_mem_nil⟩
    by_cases hi : injects self.span.context connection t₂.localHeaders = true
    · refine ⟨_, _, bind_ok (injectWith_injects hi), ?_⟩
      rw [if_pos hi]
      exact { h₂ with
        injectedInto := rfl
        previousHeaders := fun _ => hl
        headers := by rw [if_neg (by simp), hl] }
    · refine ⟨self, t₂, bind_ok (injectWith_of_not hi), ?_⟩
      rw [if_neg hi]
      exact h₂

/-- The thread once a span has started that is not yet current. -/
def Thread.starting (t : Thread) : Thread := { t with started := t.started + 1, live := t.started :: t.live }

theorem opened_attach (write : SpanContext → Headers → Headers) (hq : Quiet t.starting t₁) :
    Opened write none span t { span := span, token := t₁.current } { t₁ with current := some span } where
  span_eq := rfl
  token := hq.2.1
  fresh := rfl
  injectedInto := rfl
  previousHeaders := fun h => absurd rfl h
  headers := hq.1
  current := rfl
  started := hq.2.2.1
  live := hq.2.2.2

end Opens

/-- A start answers nothing and changes nothing, or starts this span and goes on as `Opens` says. -/
def Starts (i : Instruments) (settings : Settings) (present : Text → Option Text → List Step)
    (write : SpanContext → Headers → Headers) (source : Dotnet.Source) (opening : Opening) (t : Thread)
    (x : Act (Option CallSpan)) : Prop :=
  match opening.span source t with
  | none      => x t = .ok none t
  | some span => Opens i (opening.steps i settings present span) write (opening.into settings span t) span t t x

section Starts

variable {i : Instruments} {settings : Settings}

/-- `start_invoke` or `start_handle`. -/
def Opening.act (tracer : Tracer) (inject : Propagator) (settings : Settings) (i : Instruments) :
    Opening → Act (Option CallSpan)
  | invoke command connection => startInvoke tracer inject settings i command connection
  | handle command headers    => startHandle tracer settings i command headers

/-- `StartInvoke` or `StartHandle`. -/
def Opening.dotnetAct (source : Dotnet.Source) (settings : Settings) (i : Instruments) :
    Opening → Act (Option CallSpan)
  | invoke command connection => Dotnet.startInvoke source settings i command connection
  | handle command headers    => Dotnet.startHandle source settings i command headers

/-- A tracer always starts a span. -/
def Tracer.source (tracer : Tracer) : Dotnet.Source := fun name headers current started =>
  some (tracer name headers current started)

theorem takes_setAttributes (span : Span) (command : Command) (operation : Text) (connection : ConnectionData) :
    Takes i (if span.isRecording then describeSteps i presentSteps command operation connection else [])
      (setAttributes i span command operation connection) () :=
  Performs.ite (takes_describe (takes_setIfPresent span) command operation connection) (takes_pure ())

theorem takes_setTags (activity : Span) (command : Command) (operation : Text) (connection : ConnectionData) :
    Takes i (if activity.isRecording then describeSteps i tagSteps command operation connection else [])
      (Dotnet.setTags i activity command operation connection) () :=
  Performs.ite (takes_describe (takes_setTag activity) command operation connection) (takes_pure ())

theorem act_starts (tracer : Tracer) (inject : Propagator) (opening : Opening) (t : Thread) :
    Starts i settings presentSteps (injected inject) tracer.source opening t
      (opening.act tracer inject settings i) := by
  unfold Starts Opening.span
  cases ho : resolveOperation opening.command with
  | none           =>
    cases opening <;> simp only [Opening.command] at ho <;>
      simp only [Opening.act, startInvoke, startHandle, ho] <;> rfl
  | some operation =>
    obtain rfl := resolveOperation_eq ho
    simp only [Tracer.source, Option.map_some]
    generalize hspan : (⟨t.started, _, _⟩ : Span) = span
    cases opening with
    | invoke command connection =>
      simp only [Opening.command] at ho hspan
      have heq : startInvoke tracer inject settings i command connection t = (do
          setAttributes i span command command.operation connection
          let callSpan ← attach span
          capture i settings span command requestBody requestBodyTruncated
          if settings.isAutoInjectEnabled then do
            let callSpan ← injectInto inject callSpan connection
            pure (some callSpan)
          else pure (some callSpan) : Act (Option CallSpan)) t.starting := by
        simp only [startInvoke, ho]
        subst hspan
        rfl
      refine Opens.of_eq heq (Opens.after (takes_setAttributes span command _ connection) rfl rfl fun t₂ hq => ?_)
      exact Opens.of_eq rfl (opens_invoke settings command connection (opened_attach (injected inject) hq))
    | handle command headers    =>
      simp only [Opening.command] at ho hspan
      have heq : startHandle tracer settings i command headers t = (do
          let callSpan ← attach span
          capture i settings span command requestBody requestBodyTruncated
          pure (some callSpan) : Act (Option CallSpan)) t.starting := by
        simp only [startHandle, ho]
        subst hspan
        rfl
      exact Opens.of_eq heq (opens_handle settings command (opened_attach (injected inject) (Quiet.refl t.starting)))

theorem get_apply (t : Thread) : (get : Act Thread) t = .ok t t := rfl

theorem dotnet_start_none {source : Dotnet.Source} {name : Text} {headers : Headers} {t : Thread}
    (h : source name headers t.current t.started = none) : Dotnet.start source name headers t = .ok none t := by
  rw [Dotnet.start, bind_ok (get_apply t), h]
  rfl

theorem dotnet_start_some {source : Dotnet.Source} {name : Text} {headers : Headers} {t : Thread}
    {answer : SpanContext × Bool} (h : source name headers t.current t.started = some answer) :
    Dotnet.start source name headers t =
      .ok (some { span := ⟨t.started, answer.1, answer.2⟩, token := t.current })
        { t.starting with current := some ⟨t.started, answer.1, answer.2⟩ } := by
  rw [Dotnet.start, bind_ok (get_apply t), h]
  rfl

theorem dotnetAct_starts (source : Dotnet.Source) (opening : Opening) (t : Thread) :
    Starts i settings tagSteps Dotnet.injected source opening t (opening.dotnetAct source settings i) := by
  unfold Starts Opening.span
  cases ho : resolveOperation opening.command with
  | none           =>
    cases opening <;> simp only [Opening.command] at ho <;>
      simp only [Opening.dotnetAct, Dotnet.startInvoke, Dotnet.startHandle, ho] <;> rfl
  | some operation =>
    obtain rfl := resolveOperation_eq ho
    cases opening with
    | invoke command connection =>
      simp only [Opening.command] at ho
      simp only [Opening.dotnetAct, Dotnet.startInvoke, ho, Opening.name, Opening.carrier]
      cases hs : source (invokeName command) (connection.getHeaders t.localHeaders) t.current
          t.started with
      | none        => exact bind_ok (dotnet_start_none hs)
      | some answer =>
        have ho' := @opened_attach ⟨t.started, answer.1, answer.2⟩ t t.starting Dotnet.injected (Quiet.refl _)
        refine Opens.of_eq ((bind_ok (get_apply t)).trans (bind_ok (dotnet_start_some hs))) ?_
        refine Opens.after (takes_setTags _ command _ connection) rfl rfl fun t₂ hq => ?_
        exact opens_invoke settings command connection (ho'.quiet hq)
    | handle command headers    =>
      simp only [Opening.command] at ho
      simp only [Opening.dotnetAct, Dotnet.startHandle, ho, Opening.name, Opening.carrier, Opening.command]
      cases hs : source command.operation headers t.current t.started with
      | none        => exact bind_ok (dotnet_start_none hs)
      | some answer =>
        have ho' := @opened_attach ⟨t.started, answer.1, answer.2⟩ t t.starting Dotnet.injected (Quiet.refl _)
        exact Opens.of_eq (bind_ok (dotnet_start_some hs)) (opens_handle settings command ho')

end Starts

/-! ## Completing a span -/

def CallSpan.restored (self : CallSpan) (t : Thread) : Thread :=
  { t with localHeaders := self.before t.localHeaders }

theorem restoreHeaders_apply (self : CallSpan) (t : Thread) : restoreHeaders self t = .ok () (self.restored t) := by
  unfold restoreHeaders CallSpan.restored CallSpan.before
  cases self.injectedInto with
  | none   => rfl
  | some _ => rfl

section Completing

variable {i : Instruments} {settings : Settings} {present : Text → Option Text → List Step}
  {write : Text → Option Text → Act Unit}

theorem settle_eq (write : Text → Option Text → Act Unit) (self : CallSpan) (response : Option Command)
    (exception : Option Thrown) :
    settle i settings write self response exception =
      (captureResponse i settings self.span response >>= fun _ => conclude i write self.span exception) >>=
        fun _ => restoreHeaders self :=
  (bind_assoc _ _ _).symm

theorem takes_settle (hw : ∀ key value, Takes i (present key value) (write key value) ()) (self : CallSpan)
    (response : Option Command) (exception : Option Thrown) :
    Takes i (responseSteps settings self.span response ++ concludeSteps i present exception)
      (captureResponse i settings self.span response >>= fun _ => conclude i write self.span exception) () :=
  (takes_captureResponse settings self.span response).bind (takes_conclude hw self.span exception)

theorem settle_calm (hw : ∀ key value, Takes i (present key value) (write key value) ()) (self : CallSpan)
    (response : Option Command) (exception : Option Thrown) (t : Thread)
    (h : ∀ step ∈ responseSteps settings self.span response ++ concludeSteps i present exception, ¬ i.Fails step) :
    ∃ t', Quiet t t' ∧ settle i settings write self response exception t = .ok () (self.restored t') := by
  obtain ⟨t', h', q⟩ := (takes_settle hw self response exception t).1 h
  exact ⟨t', q, by rw [settle_eq, bind_ok h', restoreHeaders_apply]⟩

theorem settle_fails (hw : ∀ key value, Takes i (present key value) (write key value) ()) (self : CallSpan)
    (response : Option Command) (exception : Option Thrown) (t : Thread)
    (h : ∃ step ∈ responseSteps settings self.span response ++ concludeSteps i present exception, i.Fails step) :
    ∃ e t', Quiet t t' ∧ settle i settings write self response exception t = .error e t' := by
  obtain ⟨e, t', h', q⟩ := (takes_settle hw self response exception t).2 h
  exact ⟨e, t', q, by rw [settle_eq, bind_error h']⟩

theorem complete_completed (close : CallSpan → Act Unit) {self : CallSpan} (h : self.completed = true)
    (response : Option Command) (exception : Option Thrown) (t : Thread) :
    complete settings i close response exception (self, t) = .ok () (self, t) := by
  show (if self.completed = true then _ else _ : EStateM Failure (CallSpan × Thread) Unit) (self, t) = _
  rw [if_pos h]
  rfl

theorem complete_fresh (close : CallSpan → Act Unit) {self : CallSpan} (h : self.completed = false)
    (response : Option Command) (exception : Option Thrown) (t : Thread) :
    complete settings i close response exception (self, t) =
      tryFinally (onSnd (settle i settings (setIfPresent i self.span) self response exception))
        (onSnd (do close self; end_ self.span)) ({ self with completed := true }, t) := by
  show (if self.completed = true then _ else _ : EStateM Failure (CallSpan × Thread) Unit) (self, t) = _
  rw [if_neg (by rw [h]; exact Bool.false_ne_true)]
  rfl

theorem after_complete (close : CallSpan → Act Unit) {self : CallSpan} (h : self.completed = false)
    (response : Option Command) (exception : Option Thrown) (t : Thread) :
    after (complete settings i close response exception) (self, t) =
      ({ self with completed := true }, after (do close self; end_ self.span)
        (after (settle i settings (setIfPresent i self.span) self response exception) t)) := by
  rw [after_congr (complete_fresh close h response exception t), after_tryFinally, after_onSnd, after_onSnd]

end Completing

/-- The context before the span is current again, and the span has ended. -/
def Thread.close (t : Thread) (self : CallSpan) : Thread :=
  { t with current := self.token, live := t.live.filter (· != self.span.number) }

theorem after_detach (self : CallSpan) (t : Thread) : after (do detach self; end_ self.span) t = t.close self := rfl

theorem closeScope_apply {self : CallSpan} {t : Thread} (h : t.current = some self.span) :
    closeScope self t = .ok () { t with current := self.token } := by
  show EStateM.Result.ok () (if _ then _ else _) = _
  rw [if_pos h]

theorem after_closeScope {self : CallSpan} {t : Thread} (h : t.current = some self.span) :
    after (do closeScope self; end_ self.span) t = t.close self := by
  rw [after, bind_ok (closeScope_apply h)]
  rfl

theorem after_dispose {self : CallSpan} {t : Thread} (h : self.span.number ∈ t.live) :
    after (Dotnet.dispose self) t = t.close self := by
  show (if _ then _ else _ : Thread) = _
  rw [if_pos h]
  rfl

/-! ## A call of the tests -/

def calm : Instruments := { redactValue := id, redactTarget := id, raises := fun _ => none }

theorem calm_not_fails (step : Step) : ¬ calm.Fails step := fun ⟨_, h⟩ => by cases h

def fetch : Command where
  runtimeName := "python".toList
  commandType := "InvokeStaticMethod".toList
  operation := "SomeLib.Service.Fetch".toList
  target := "SomeLib inmemory".toList
  body := some ([], false)

def plain : ConnectionData := ⟨"InMemory".toList, none, Headers.empty⟩

theorem resolve_fetch : resolveOperation fetch = some fetch.operation := by decide

end Tracing
end Graftcode
