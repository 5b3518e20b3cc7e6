import Graftcode.CallSpanSteps
import Graftcode.Machine
/-!
# CallSpanRuns — the call spans of a thread, opened and completed in turn

A thread opens call spans inside one another and completes the innermost; a call span that has been completed may be
completed again, and a start or a completion may raise.  `Stacked` says how the open call spans hold, each of them, the
headers and the context before it.
-/
namespace Graftcode
namespace Tracing

open Act

inductive Language where
  | python | java

def Language.close : Language → CallSpan → Act Unit
  | python => detach
  | java   => closeScope

/-- What the calls of a thread share. -/
structure Runtime where
  language : Language
  tracer : Tracer
  inject : Propagator
  settings : Settings

/-- A call span that was handed out, and the call it is of. -/
structure Entry where
  callSpan : CallSpan
  opening : Opening

/-- The call spans that are open, innermost first, and those that have been completed. -/
structure Session where
  thread : Thread
  opened : List Entry := []
  closed : List Entry := []

inductive Move where
  | start (i : Instruments) (opening : Opening)
  | complete (i : Instruments) (response : Option Command) (exception : Option Thrown)
  -- one of the completed call spans, once more
  | completeAgain (index : Nat) (i : Instruments) (response : Option Command) (exception : Option Thrown)

def Move.instruments : Move → Instruments
  | start i _ | complete i _ _ | completeAgain _ i _ _ => i

/-- The entry and the thread that `complete` leaves, whether it returns or raises. -/
def Entry.complete (runtime : Runtime) (i : Instruments) (response : Option Command) (exception : Option Thrown)
    (entry : Entry) (t : Thread) : Entry × Thread :=
  let left := after (Tracing.complete runtime.settings i runtime.language.close response exception) (entry.callSpan, t)
  ({ entry with callSpan := left.1 }, left.2)

def step (runtime : Runtime) (s : Session) : Move → Option (Session × Unit)
  | .start i opening                            =>
    match opening.act runtime.tracer runtime.inject runtime.settings i s.thread with
    | .ok none t            => some ({ s with thread := t }, ())
    | .ok (some callSpan) t => some ({ s with thread := t, opened := ⟨callSpan, opening⟩ :: s.opened }, ())
    | .error _ t            => some ({ s with thread := t }, ())
  | .complete i response exception              =>
    match s.opened with
    | []            => none
    | entry :: rest =>
      let left := entry.complete runtime i response exception s.thread
      some (⟨left.2, rest, left.1 :: s.closed⟩, ())
  | .completeAgain index i response exception   =>
    match s.closed[index]? with
    | none       => none
    | some entry =>
      let left := entry.complete runtime i response exception s.thread
      some ({ s with thread := left.2, closed := s.closed.set index left.1 }, ())

/-! ## What a move does -/

/-- Open call spans have not been completed, and closed ones have. -/
structure Session.Sound (s : Session) : Prop where
  opened : ∀ entry ∈ s.opened, entry.callSpan.completed = false
  closed : ∀ entry ∈ s.closed, entry.callSpan.completed = true

/-- The thread after a completion: the headers of before the injection are back, and the context too when the call span
was current; or a step failed, and the headers are as they were. -/
def Completion (i : Instruments) (self : CallSpan) (t t' : Thread) : Prop :=
  t'.localHeaders = self.before t.localHeaders ∧ (t.current = some self.span → t'.current = self.token) ∨
    (∃ step, i.Fails step) ∧ t'.localHeaders = t.localHeaders

inductive Stepped (runtime : Runtime) (s : Session) : Move → Session → Prop
  -- the operation is not traced
  | skipped (i : Instruments) (opening : Opening) : Stepped runtime s (.start i opening) s
  | started (i : Instruments) (opening : Opening) (span : Span) (callSpan : CallSpan) (t : Thread) :
      opening.span runtime.tracer.source s.thread = some span →
      (∀ step ∈ opening.steps i runtime.settings presentSteps span, ¬ i.Fails step) →
      Opened (injected runtime.inject) (opening.into runtime.settings span s.thread) span s.thread callSpan t →
      Stepped runtime s (.start i opening) { s with thread := t, opened := ⟨callSpan, opening⟩ :: s.opened }
  | raised (i : Instruments) (opening : Opening) (t : Thread) :
      (∃ step, i.Fails step) → t.localHeaders = s.thread.localHeaders →
      Stepped runtime s (.start i opening) { s with thread := t }
  | completed (i : Instruments) (response : Option Command) (exception : Option Thrown) (entry : Entry)
      (rest : List Entry) (t : Thread) :
      s.opened = entry :: rest → Completion i entry.callSpan s.thread t →
      Stepped runtime s (.complete i response exception)
        ⟨t, rest, { entry with callSpan := { entry.callSpan with completed := true } } :: s.closed⟩
  | again (index : Nat) (i : Instruments) (response : Option Command) (exception : Option Thrown) :
      Stepped runtime s (.completeAgain index i response exception) s

section Step

variable {runtime : Runtime} {t₀ : Thread} {s s' : Session} {u : Unit}

theorem step_start (runtime : Runtime) (s : Session) (i : Instruments) (opening : Opening) :
    ∃ s', step runtime s (.start i opening) = some (s', ()) ∧ Stepped runtime s (.start i opening) s' := by
  have hs := @act_starts i runtime.settings runtime.tracer runtime.inject opening s.thread
  unfold Starts at hs
  cases hspan : opening.span runtime.tracer.source s.thread with
  | none      =>
    simp only [hspan] at hs
    exact ⟨s, by simp only [step, hs], .skipped i opening⟩
  | some span =>
    simp only [hspan] at hs
    by_cases hany : ∃ step ∈ opening.steps i runtime.settings presentSteps span, i.Fails step
    · obtain ⟨e, t, herr, -, hheaders⟩ := hs.2 hany
      obtain ⟨step, -, hfail⟩ := hany
      exact ⟨_, by simp only [Tracing.step, herr], .raised i opening t ⟨step, hfail⟩ hheaders⟩
    · have hcalm : ∀ step ∈ opening.steps i runtime.settings presentSteps span, ¬ i.Fails step :=
        fun step hs hf => hany ⟨step, hs, hf⟩
      obtain ⟨callSpan, t, hok, ho⟩ := hs.1 hcalm
      exact ⟨_, by simp only [step, hok], .started i opening span callSpan t hspan hcalm ho⟩

theorem after_close (language : Language) (self : CallSpan) (t : Thread) :
    (after (do language.close self; end_ self.span) t).localHeaders = t.localHeaders ∧
      (t.current = some self.span → (after (do language.close self; end_ self.span) t).current = self.token) := by
  cases language with
  | python => exact ⟨rfl, fun _ => rfl⟩
  | java   =>
    by_cases h : t.current = some self.span
    · rw [Language.close, after_closeScope h]
      exact ⟨rfl, fun _ => rfl⟩
    · have happly : closeScope self t = .ok () t := by
        show EStateM.Result.ok () (if _ then _ else _) = _
        rw [if_neg h]
      refine ⟨?_, fun h' => absurd h' h⟩
      rw [Language.close, after_congr (bind_ok happly)]
      rfl

theorem Entry.complete_fresh (runtime : Runtime) (i : Instruments) (response : Option Command)
    (exception : Option Thrown) {entry : Entry} (h : entry.callSpan.completed = false) (t : Thread) :
    ∃ t', entry.complete runtime i response exception t =
        ({ entry with callSpan := { entry.callSpan with completed := true } }, t') ∧
      Completion i entry.callSpan t t' := by
  refine ⟨_, by rw [Entry.complete, after_complete runtime.language.close h], ?_⟩
  generalize hsettled : after (settle i runtime.settings (setIfPresent i entry.callSpan.span) entry.callSpan response
    exception) t = t₁
  obtain ⟨hheaders, hcurrent⟩ := after_close runtime.language entry.callSpan t₁
  by_cases hany : ∃ step ∈ responseSteps runtime.settings entry.callSpan.span response ++
      concludeSteps i presentSteps exception, i.Fails step
  · obtain ⟨e, t₂, q, herr⟩ := settle_fails (takes_setIfPresent entry.callSpan.span) entry.callSpan response exception t
      hany
    obtain ⟨step, -, hfail⟩ := hany
    rw [after_error herr] at hsettled
    subst hsettled
    exact Or.inr ⟨⟨step, hfail⟩, hheaders.trans q.1⟩
  · obtain ⟨t₂, q, hok⟩ := settle_calm (takes_setIfPresent entry.callSpan.span) entry.callSpan response exception t
      fun step hs hf => hany ⟨step, hs, hf⟩
    rw [after_ok hok] at hsettled
    subst hsettled
    refine Or.inl ⟨hheaders.trans ?_, fun hc => hcurrent (q.2.1.trans hc)⟩
    show entry.callSpan.before t₂.localHeaders = _
    rw [q.1]

theorem Entry.complete_again (runtime : Runtime) (i : Instruments) (response : Option Command)
    (exception : Option Thrown) {entry : Entry} (h : entry.callSpan.completed = true) (t : Thread) :
    entry.complete runtime i response exception t = (entry, t) := by
  rw [Entry.complete, after_ok (complete_completed _ h response exception t)]

/-- **What a move does to a session.** -/
theorem Session.Sound.stepped (hs : s.Sound) {move : Move} (h : step runtime s move = some (s', u)) :
    Stepped runtime s move s' := by
  cases move with
  | start i opening =>
    obtain ⟨s₁, hstep, hst⟩ := step_start runtime s i opening
    rw [hstep] at h
    cases h
    exact hst
  | complete i response exception =>
    cases hopened : s.opened with
    | nil           =>
      simp only [step, hopened] at h
      cases h
    | cons entry rest =>
      have hfresh := hs.opened entry (by rw [hopened]; exact List.mem_cons_self)
      obtain ⟨t, happly, hc⟩ := entry.complete_fresh runtime i response exception hfresh s.thread
      simp only [step, hopened, happly] at h
      cases h
      exact .completed i response exception entry rest t hopened hc
  | completeAgain index i response exception =>
    cases hindex : s.closed[index]? with
    | none       =>
      simp only [step, hindex] at h
      cases h
    | some entry =>
      have hcompleted := hs.closed entry (List.mem_of_getElem? hindex)
      have hset : s.closed.set index entry = s.closed := by
        obtain ⟨hlt, rfl⟩ := List.getElem?_eq_some_iff.1 hindex
        exact List.set_getElem_self hlt
      simp only [step, hindex, entry.complete_again runtime i response exception hcompleted, hset] at h
      cases h
      exact .again index i response exception

theorem Session.Sound.step {move : Move} (hs : s.Sound) (h : Stepped runtime s move s') : s'.Sound := by
  cases h with
  | skipped i opening => exact hs
  | started i opening span callSpan t hspan _ ho =>
    exact ⟨List.forall_mem_cons.2 ⟨ho.fresh, hs.opened⟩, hs.closed⟩
  | raised i opening t _ _ => exact ⟨hs.opened, hs.closed⟩
  | completed i response exception entry rest t hopened _ =>
    refine ⟨fun e he => hs.opened e ?_, List.forall_mem_cons.2 ⟨rfl, hs.closed⟩⟩
    rw [hopened]
    exact List.mem_cons_of_mem _ he
  | again index i response exception => exact hs

theorem sound_init (t₀ : Thread) : Session.Sound ⟨t₀, [], []⟩ :=
  ⟨fun _ h => absurd h List.not_mem_nil, fun _ h => absurd h List.not_mem_nil⟩

/-- The moves of a well-nested sequence. -/
def Session.Allows (s : Session) : Move → Prop
  | .start _ _                 => True
  | .complete _ _ _            => s.opened ≠ []
  | .completeAgain index _ _ _ => index < s.closed.length

theorem step_taken (runtime : Runtime) {move : Move} (h : s.Allows move) : ∃ s', step runtime s move = some (s', ()) := by
  cases move with
  | start i opening =>
    obtain ⟨s', hs, -⟩ := step_start runtime s i opening
    exact ⟨s', hs⟩
  | complete i response exception =>
    obtain ⟨entry, rest, hopened⟩ := List.exists_cons_of_ne_nil h
    exact ⟨_, by simp only [step, hopened]; rfl⟩
  | completeAgain index i response exception =>
    have hindex : s.closed[index]? = some s.closed[index] := List.getElem?_eq_getElem h
    exact ⟨_, by simp only [step, hindex]; rfl⟩

end Step

/-! ## The stack of open call spans -/

/-- The open call spans, from the innermost: each is current, and holds the context before it and, when it was injected,
the headers before it; below the last are the headers and the context of `t₀`. -/
def Stacked (inject : Propagator) (t₀ : Thread) : List Entry → Headers → Option Span → Prop
  | [], headers, current                 => headers = t₀.localHeaders ∧ current = t₀.current
  | ⟨self, _⟩ :: rest, headers, current  =>
    current = some self.span ∧
      (self.injectedInto ≠ none →
        self.span.context.isValid = true ∧ headers = injected inject self.span.context self.previousHeaders) ∧
      Stacked inject t₀ rest (self.before headers) self.token

def Move.Calm (move : Move) : Prop := ∀ step, ¬ move.instruments.Fails step

def Opening.isInvoke : Opening → Bool
  | invoke _ _ => true
  | handle _ _ => false

/-- The connection of an invocation has no `traceparent` of its own. -/
def Move.Plain : Move → Prop
  | start _ (.invoke _ connection) => connection.headers traceParentHeader = none
  | _                              => True

section Stack

variable {runtime : Runtime} {inject : Propagator} {t₀ : Thread} {s s' : Session}

/-- What is injected is valid. -/
theorem Opening.into_valid {settings : Settings} {span : Span} {opening : Opening} {t : Thread}
    (h : opening.into settings span t ≠ none) : span.context.isValid = true := by
  cases opening with
  | invoke command connection =>
    have hinto : (settings.isAutoInjectEnabled && injects span.context connection t.localHeaders) = true := by
      by_contra hno
      exact h (if_neg hno)
    rw [Bool.and_eq_true] at hinto
    exact (injects_iff.1 hinto.2).1
  | handle command headers    => exact absurd rfl h

/-- A move in which nothing fails keeps the stack. -/
theorem Stacked.step {move : Move} (hcalm : move.Calm)
    (hst : Stacked runtime.inject t₀ s.opened s.thread.localHeaders s.thread.current)
    (h : Stepped runtime s move s') :
    Stacked runtime.inject t₀ s'.opened s'.thread.localHeaders s'.thread.current := by
  cases h with
  | skipped i opening => exact hst
  | started i opening span callSpan t hspan _ ho =>
    refine ⟨by rw [ho.current, ho.span_eq], fun hinto => ?_, ?_⟩
    · rw [ho.injectedInto] at hinto
      rw [ho.headers, if_neg hinto, ho.span_eq, ho.previousHeaders hinto]
      exact ⟨Opening.into_valid hinto, rfl⟩
    · rw [ho.before, ho.token]
      exact hst
  | raised i opening t hfail _ =>
    obtain ⟨step, hf⟩ := hfail
    exact absurd hf (hcalm step)
  | completed i response exception entry rest t hopened hc =>
    rw [hopened] at hst
    obtain ⟨hcurrent, -, hrest⟩ := hst
    rcases hc with ⟨hheaders, htoken⟩ | ⟨⟨step, hf⟩, -⟩
    · show Stacked runtime.inject t₀ rest t.localHeaders t.current
      rw [hheaders, htoken hcurrent]
      exact hrest
    · exact absurd hf (hcalm step)
  | again index i response exception => exact hst

theorem Stacked.others (hinject : Propagates inject) {name : Text} (hname : ¬ IsTraceHeader name) :
    ∀ {opened : List Entry} {headers : Headers} {current : Option Span}, Stacked inject t₀ opened headers current →
      headers name = t₀.localHeaders name
  | [], headers, current, h                     => by rw [h.1]
  | ⟨self, opening⟩ :: rest, headers, current, h => by
    obtain ⟨-, hinjected, hrest⟩ := h
    have ih := Stacked.others hinject hname hrest
    unfold CallSpan.before at ih
    cases hinto : self.injectedInto with
    | none            => rwa [hinto] at ih
    | some connection =>
      rw [hinto] at ih
      rw [(hinjected (by simp [hinto])).2, injected_of_not_trace _ hinject hname]
      exact ih

/-- The open call spans that were injected are those of the invocations. -/
def Injected (opened : List Entry) : Prop :=
  ∀ entry ∈ opened, entry.callSpan.injectedInto ≠ none ↔ entry.opening.isInvoke = true

/-- The trace headers are those of the innermost invocation. -/
theorem Stacked.innermost (hinject : Propagates inject) {entry : Entry} :
    ∀ {opened : List Entry} {headers : Headers} {current : Option Span}, Stacked inject t₀ opened headers current →
      Injected opened → opened.find? (fun e => e.opening.isInvoke) = some entry →
        headers traceParentHeader = some (traceParent entry.callSpan.span.context) ∧
          headers traceIdHeader = some entry.callSpan.span.context.traceId
  | [], headers, current, _, _, hfind                        => by cases hfind
  | ⟨self, opening⟩ :: rest, headers, current, h, hi, hfind => by
    obtain ⟨-, hinjected, hrest⟩ := h
    have hhead := hi ⟨self, opening⟩ List.mem_cons_self
    cases hinvoke : opening.isInvoke with
    | true  =>
      rw [List.find?_cons, hinvoke] at hfind
      cases hfind
      obtain ⟨hvalid, hheaders⟩ := hinjected (hhead.2 hinvoke)
      rw [hheaders]
      exact ⟨injected_traceParent _ hinject hvalid, injected_traceId _⟩
    | false =>
      rw [List.find?_cons, hinvoke] at hfind
      have hinto : self.injectedInto = none := by
        by_contra hne
        rw [hhead.1 hne] at hinvoke
        cases hinvoke
      have ih := hrest.innermost hinject (fun e he => hi e (List.mem_cons_of_mem _ he)) hfind
      unfold CallSpan.before at ih
      rwa [hinto] at ih

theorem Opening.span_valid {tracer : Tracer} {opening : Opening} {t : Thread} {span : Span}
    (hvalid : ∀ name headers current started, (tracer name headers current started).1.isValid = true)
    (h : opening.span tracer.source t = some span) : span.context.isValid = true := by
  unfold Opening.span at h
  split at h
  · cases h
  · cases h
    exact hvalid ..

theorem Injected.step {move : Move} (hauto : runtime.settings.isAutoInjectEnabled = true)
    (hvalid : ∀ name headers current started, (runtime.tracer name headers current started).1.isValid = true)
    (hplain : move.Plain) (hi : Injected s.opened) (h : Stepped runtime s move s') : Injected s'.opened := by
  cases h with
  | skipped i opening => exact hi
  | started i opening span callSpan t hspan _ ho =>
    refine List.forall_mem_cons.2 ⟨?_, hi⟩
    show callSpan.injectedInto ≠ none ↔ opening.isInvoke = true
    rw [ho.injectedInto]
    cases opening with
    | invoke command connection =>
      have hinjects : injects span.context connection s.thread.localHeaders = true :=
        injects_iff.2 ⟨Opening.span_valid hvalid hspan, Or.inl hplain⟩
      simp [Opening.into, hauto, hinjects, Opening.isInvoke]
    | handle command headers    => simp [Opening.into, Opening.isInvoke]
  | raised i opening t _ _ => exact hi
  | completed i response exception entry rest t hopened _ =>
    exact fun e he => hi e (by rw [hopened]; exact List.mem_cons_of_mem _ he)
  | again index i response exception => exact hi

/-- **Trace headers nest and are restored.**  In every run in which nothing fails, from a thread's initial headers and
context: once all call spans are completed, the headers and the context are the initial ones; until then `traceparent`
and `traceid` are those of the innermost invocation; no other header but `tracestate` ever changes; to complete a call
span again changes nothing; and every move of a well-nested sequence is taken. -/
theorem nested_and_restored (runtime : Runtime) (hinject : Propagates runtime.inject)
    (hauto : runtime.settings.isAutoInjectEnabled = true)
    (hvalid : ∀ name headers current started, (runtime.tracer name headers current started).1.isValid = true)
    (t₀ : Thread) (moves : List Move) (hmoves : ∀ move ∈ moves, move.Calm ∧ move.Plain) {s : Session}
    {events : List Unit} (hrun : Machine.run (step runtime) ⟨t₀, [], []⟩ moves = some (s, events)) :
    (s.opened = [] → s.thread.localHeaders = t₀.localHeaders ∧ s.thread.current = t₀.current) ∧
    (∀ entry, s.opened.find? (fun e => e.opening.isInvoke) = some entry →
      s.thread.localHeaders traceParentHeader = some (traceParent entry.callSpan.span.context) ∧
        s.thread.localHeaders traceIdHeader = some entry.callSpan.span.context.traceId) ∧
    (∀ name, ¬ IsTraceHeader name → s.thread.localHeaders name = t₀.localHeaders name) ∧
    (∀ index i response exception s' u,
      step runtime s (.completeAgain index i response exception) = some (s', u) → s' = s) ∧
    ∀ move, s.Allows move → ∃ s', step runtime s move = some (s', ()) := by
  have hbase : Stacked runtime.inject t₀ [] t₀.localHeaders t₀.current := ⟨rfl, rfl⟩
  obtain ⟨hsound, hst, hi⟩ := Machine.run_along
    (P := fun s _ => s.Sound ∧ Stacked runtime.inject t₀ s.opened s.thread.localHeaders s.thread.current ∧
      Injected s.opened)
    (fun s t move s' e hC hP hs => by
      obtain ⟨hsound, hst, hi⟩ := hP
      have h := hsound.stepped hs
      exact ⟨hsound.step h, hst.step hC.1 h, hi.step hauto hvalid hC.2 h⟩)
    moves (t := []) (Machine.along_of_forall (C := fun move => move.Calm ∧ move.Plain) moves _ hmoves)
    ⟨sound_init t₀, hbase, fun _ h => absurd h List.not_mem_nil⟩ hrun
  refine ⟨fun hempty => ?_, fun entry hfind => hst.innermost hinject hi hfind,
    fun name hname => hst.others hinject hname,
    fun index i response exception s' u hs => ?_, fun move hallows => step_taken runtime hallows⟩
  · rw [hempty] at hst
    exact hst
  · cases hsound.stepped hs with
    | again _ _ _ _ => rfl

/-- Spans told apart by their numbers. -/
def numbered : Runtime where
  language := .python
  inject := w3cInject
  tracer _ _ _ started := (⟨"0af7".toList, List.replicate (started + 1) '1', "01".toList, [], true⟩, true)
  settings := {}

def twice : List Move :=
  [.start calm (.invoke fetch plain), .start calm (.invoke fetch plain), .complete calm none none,
    .complete calm none none]

theorem nested_and_restored_twice :
    ∃ s events, Machine.run (step numbered) ⟨{}, [], []⟩ twice = some (s, events) ∧
      s.thread.localHeaders = Headers.empty ∧ s.thread.current = none := by
  have hrun : (Machine.run (step numbered) ⟨{}, [], []⟩ twice).map (fun r => r.1.opened.length) = some 0 := by
    decide +kernel
  obtain ⟨⟨s, events⟩, hs, hlength⟩ := Option.map_eq_some_iff.1 hrun
  have hmoves : ∀ move ∈ twice, move.Calm ∧ move.Plain := by
    intro move h
    simp only [twice, List.mem_cons, List.not_mem_nil, or_false] at h
    rcases h with rfl | rfl | rfl | rfl
    · exact ⟨calm_not_fails, rfl⟩
    · exact ⟨calm_not_fails, rfl⟩
    · exact ⟨calm_not_fails, trivial⟩
    · exact ⟨calm_not_fails, trivial⟩
  exact ⟨s, events, hs, (nested_and_restored numbered propagates_w3cInject rfl (fun _ _ _ _ => rfl) {} twice hmoves hs).1
    (List.eq_nil_of_length_eq_zero hlength)⟩

end Stack

end Tracing
end Graftcode
