import Graftcode.CallSpanFailures
/-!
# Instrumentation — the call spans in the contexts of a thread's calls

`GraftcodeInstrumentation` of Python, Java and .NET: a handler of a call's beginning appends a call span to the items of
the call's context, a handler of its end completes the call spans among them, last first, whoever appended them.  Calls
are made inside calls, several instrumentations may be attached, and the items are not theirs alone.
-/
namespace Graftcode
namespace Tracing

open Act

inductive Item (α : Type) where
  | callSpan (self : CallSpan)
  | other (item : α)

/-- The end of a call as one handler meets it; each completion meets its own outside, by the number of its span. -/
structure End where
  instruments : Nat → Instruments
  response : Option Command
  exception : Option Thrown

/-- `complete`; an activity is not marked as completed. -/
def Port.complete (settings : Settings) (i : Instruments) (response : Option Command) (exception : Option Thrown) :
    Port → EStateM Failure (CallSpan × Thread) Unit
  | python => Tracing.complete settings i detach response exception
  | java   => Tracing.complete settings i closeScope response exception
  | dotnet => do
    let self := (← get).1
    Act.onSnd (Dotnet.complete settings i self response exception)

section Handlers

variable {α : Type} (port : Port) (telemetry : Telemetry)

/-- `on_execute` and `on_process`, with the items of the context, the last appended first. -/
def onStart (i : Instruments) (opening : Opening) (s : List (Item α) × Thread) : List (Item α) × Thread :=
  match port.start telemetry ⟨opening, none, none, i, i⟩ s.2 with
  | .ok none t            => (s.1, t)
  | .ok (some callSpan) t => (.callSpan callSpan :: s.1, t)
  | .error _ t            => (s.1, t)

/-- `_complete_spans`, with the exception it lets out. -/
def completeSpans (e : End) : List (Item α) → Thread → (List (Item α) × Thread) × Option Failure
  | [], t                     => (([], t), none)
  | .other item :: rest, t    =>
    let left := completeSpans e rest t
    ((.other item :: left.1.1, left.1.2), left.2)
  | .callSpan self :: rest, t =>
    match port.complete telemetry.settings (e.instruments self.span.number) e.response e.exception (self, t) with
    | .ok _ s          => completeSpans e rest s.2
    | .error failure s => ((.callSpan s.1 :: rest, s.2), some failure)

/-- The handlers of the end of a call, one after the other. -/
def onEnd : List End → List (Item α) × Thread → List (Item α) × Thread
  | [], s        => s
  | e :: ends, s => onEnd ends (completeSpans port telemetry e s.1 s.2).1

/-- What happens inside a call: something else is appended to its items, a handler begins, or a call is made. -/
inductive Traffic (α : Type) where
  | quiet
  | put (item : α) (rest : Traffic α)
  | start (i : Instruments) (opening : Opening) (rest : Traffic α)
  | call (inside : Traffic α) (ends : List End) (rest : Traffic α)

namespace Traffic

def run : Traffic α → List (Item α) × Thread → List (Item α) × Thread
  | quiet, s                  => s
  | put item rest, s          => rest.run (.other item :: s.1, s.2)
  | start i opening rest, s   => rest.run (onStart port telemetry i opening s)
  | call inside ends rest, s  => rest.run (s.1, (onEnd port telemetry ends (inside.run ([], s.2))).2)

end Traffic

end Handlers

/-! ## What the calls keep to -/

def Instruments.Calm (i : Instruments) : Prop := ∀ step, ¬ i.Fails step

def End.Calm (e : End) : Prop := ∀ number, (e.instruments number).Calm

namespace Traffic

variable {α : Type}

/-- How many handlers begin in the call itself. -/
def starts : Traffic α → Nat
  | quiet           => 0
  | put _ rest      => rest.starts
  | start _ _ rest  => rest.starts + 1
  | call _ _ rest   => rest.starts

/-- What others append to the items of the call, the last first. -/
def puts : Traffic α → List α → List α
  | quiet, items           => items
  | put item rest, items   => rest.puts (item :: items)
  | start _ _ rest, items  => rest.puts items
  | call _ _ rest, items   => rest.puts items

/-- Some handler of the end raises nothing; or, where a call span that raises is marked as completed, as many handlers
end the call as have begun it. -/
def Ended (port : Port) (inside : Traffic α) (ends : List End) : Prop :=
  (∃ e ∈ ends, e.Calm) ∨ port ≠ .dotnet ∧ inside.starts ≤ ends.length

/-- Every start raises nothing, and every call is ended. -/
def Closed (port : Port) : Traffic α → Prop
  | quiet                  => True
  | put _ rest             => rest.Closed port
  | start i _ rest         => i.Calm ∧ rest.Closed port
  | call inside ends rest  => Ended port inside ends ∧ inside.Closed port ∧ rest.Closed port

/-- No handler of the end of a call raises. -/
def Calm : Traffic α → Prop
  | quiet                  => True
  | put _ rest             => rest.Calm
  | start _ _ rest         => rest.Calm
  | call inside ends rest  => (∀ e ∈ ends, e.Calm) ∧ inside.Calm ∧ rest.Calm

end Traffic

/-! ## The call spans among the items -/

section Items

variable {α : Type}

/-- The call spans that have not been completed, innermost first. -/
def openSpans (items : List (Item α)) : List CallSpan :=
  items.filterMap fun
    | .callSpan self => if self.completed then none else some self
    | .other _       => none

def others (items : List (Item α)) : List α :=
  items.filterMap fun
    | .callSpan _ => none
    | .other item => some item

@[simp] theorem openSpans_nil : openSpans ([] : List (Item α)) = [] := rfl

@[simp] theorem openSpans_other (item : α) (rest : List (Item α)) : openSpans (.other item :: rest) = openSpans rest :=
  rfl

theorem openSpans_completed {self : CallSpan} (h : self.completed = true) (rest : List (Item α)) :
    openSpans (.callSpan self :: rest) = openSpans rest := by
  simp [openSpans, h]

theorem openSpans_fresh {self : CallSpan} (h : self.completed = false) (rest : List (Item α)) :
    openSpans (.callSpan self :: rest) = self :: openSpans rest := by
  simp [openSpans, h]

@[simp] theorem others_nil : others ([] : List (Item α)) = [] := rfl

@[simp] theorem others_other (item : α) (rest : List (Item α)) : others (.other item :: rest) = item :: others rest := rfl

@[simp] theorem others_callSpan (self : CallSpan) (rest : List (Item α)) : others (.callSpan self :: rest) = others rest :=
  rfl

/-- The open call spans of a call, from the innermost: each is current and live and holds the context before it; below
the last are the context and the live spans of `t₀`. -/
def Current (t₀ : Thread) : List CallSpan → Option Span → List Nat → Prop
  | [], current, live           => current = t₀.current ∧ live = t₀.live
  | self :: rest, current, live =>
    current = some self.span ∧
      ∃ below, live = self.span.number :: below ∧ self.span.number ∉ below ∧ Current t₀ rest self.token below

/-- What is left of the headers once each call span has given them back. -/
def Layered (t₀ : Thread) : List CallSpan → Headers → Prop
  | [], headers           => headers = t₀.localHeaders
  | self :: rest, headers => Layered t₀ rest (self.before headers)

/-- The spans that have not ended are among those that have started. -/
def Thread.Fresh (t : Thread) : Prop := ∀ number ∈ t.live, number < t.started

/-- What the items of a call hold of the thread, from `t₀` on; of the headers only as long as they are `exact`. -/
structure Upheld (port : Port) (exact : Prop) (t₀ : Thread) (items : List (Item α)) (t : Thread) : Prop where
  current : Current t₀ (openSpans items) t.current t.live
  fresh : t.Fresh
  headers : exact → Layered t₀ (openSpans items) t.localHeaders
  unmarked : port = .dotnet → ∀ self, .callSpan self ∈ items → self.completed = false

end Items

/-! ## One completion -/

/-- What `complete` makes of a call span that is current: it is closed and gives the headers back; or a step fails, and
Python and Java close it all the same and mark it, where .NET leaves it as it is. -/
inductive Completes (port : Port) (i : Instruments) (self : CallSpan) (t : Thread) :
    EStateM.Result Failure (CallSpan × Thread) Unit → Prop where
  | closed (self' : CallSpan) (t₁ : Thread) (quiet : Quiet t t₁) :
      Completes port i self t (.ok () (self', (self.restored t₁).close self))
  | marked (failure : Failure) (t₁ : Thread) (quiet : Quiet t t₁) (fails : ¬ i.Calm) (port_ne : port ≠ .dotnet) :
      Completes port i self t (.error failure ({ self with completed := true }, t₁.close self))
  | left (failure : Failure) (t₁ : Thread) (quiet : Quiet t t₁) (fails : ¬ i.Calm) (port_eq : port = .dotnet) :
      Completes port i self t (.error failure (self, t₁))

section Completion

variable {port : Port} {settings : Settings} {i : Instruments} {response : Option Command} {exception : Option Thrown}
  {self : CallSpan} {t t₁ : Thread}

theorem detach_end (self : CallSpan) (t : Thread) :
    (do detach self; end_ self.span : Act Unit) t = .ok () (t.close self) := rfl

theorem closeScope_end (h : t.current = some self.span) :
    (do closeScope self; end_ self.span : Act Unit) t = .ok () (t.close self) := by
  rw [bind_ok (closeScope_apply h)]
  rfl

theorem dispose_apply (h : self.span.number ∈ t.live) : Dotnet.dispose self t = .ok () (t.close self) := by
  show EStateM.Result.ok () (if _ then _ else _) = _
  rw [if_pos h]
  rfl

/-- The settling returned. -/
theorem complete_of_settled (hfresh : self.completed = false)
    (h : settle i settings (port.write i self.span) self response exception t = .ok () t₁)
    (hcurrent : t₁.current = some self.span) (hlive : self.span.number ∈ t₁.live) :
    ∃ self', port.complete settings i response exception (self, t) = .ok () (self', t₁.close self) := by
  cases port with
  | python =>
    refine ⟨{ self with completed := true }, (complete_fresh detach hfresh response exception t).trans ?_⟩
    exact tryFinally_ok (onSnd_ok h) (onSnd_ok (detach_end self t₁))
  | java   =>
    refine ⟨{ self with completed := true }, (complete_fresh closeScope hfresh response exception t).trans ?_⟩
    exact tryFinally_ok (onSnd_ok h) (onSnd_ok (closeScope_end hcurrent))
  | dotnet =>
    have hcomplete : Dotnet.complete settings i self response exception t = .ok () (t₁.close self) :=
      (bind_ok h).trans (dispose_apply hlive)
    exact ⟨self, onSnd_ok hcomplete⟩

theorem complete_of_raised (hport : port ≠ .dotnet) (hfresh : self.completed = false) {failure : Failure}
    (h : settle i settings (port.write i self.span) self response exception t = .error failure t₁)
    (hcurrent : t₁.current = some self.span) :
    port.complete settings i response exception (self, t) =
      .error failure ({ self with completed := true }, t₁.close self) := by
  cases port with
  | python =>
    apply (complete_fresh detach hfresh response exception t).trans
    exact tryFinally_error (onSnd_error h) (onSnd_ok (detach_end self t₁))
  | java   =>
    apply (complete_fresh closeScope hfresh response exception t).trans
    exact tryFinally_error (onSnd_error h) (onSnd_ok (closeScope_end hcurrent))
  | dotnet => exact absurd rfl hport

theorem complete_of_raised_dotnet {failure : Failure}
    (h : settle i settings (Port.dotnet.write i self.span) self response exception t = .error failure t₁) :
    Port.dotnet.complete settings i response exception (self, t) = .error failure (self, t₁) := by
  have hcomplete : Dotnet.complete settings i self response exception t = .error failure t₁ := bind_error h
  exact onSnd_error hcomplete

theorem completes (port : Port) (settings : Settings) (i : Instruments) (response : Option Command)
    (exception : Option Thrown) (hfresh : self.completed = false) (hcurrent : t.current = some self.span)
    (hlive : self.span.number ∈ t.live) :
    Completes port i self t (port.complete settings i response exception (self, t)) := by
  by_cases hany : ∃ step ∈ responseSteps settings self.span response ++ concludeSteps i port.present exception,
      i.Fails step
  · have hfails : ¬ i.Calm := fun hcalm => by
      obtain ⟨step, -, hf⟩ := hany
      exact hcalm step hf
    obtain ⟨failure, t₁, q, h⟩ := settle_fails (port.takes_write i self.span) self response exception t hany
    by_cases hport : port = .dotnet
    · subst hport
      rw [complete_of_raised_dotnet h]
      exact .left failure t₁ q hfails rfl
    · rw [complete_of_raised hport hfresh h (q.2.1.trans hcurrent)]
      exact .marked failure t₁ q hfails hport
  · obtain ⟨t₁, q, h⟩ := settle_calm (port.takes_write i self.span) self response exception t
      fun step hs hf => hany ⟨step, hs, hf⟩
    have hlive' : self.span.number ∈ (self.restored t₁).live := q.2.2.2 ▸ hlive
    obtain ⟨self', hc⟩ := complete_of_settled hfresh h (q.2.1.trans hcurrent) hlive'
    rw [hc]
    exact .closed self' t₁ q

theorem complete_marked (hport : port ≠ .dotnet) (h : self.completed = true) :
    port.complete settings i response exception (self, t) = .ok () (self, t) := by
  cases port with
  | python => exact complete_completed detach h response exception t
  | java   => exact complete_completed closeScope h response exception t
  | dotnet => exact absurd rfl hport

end Completion

/-! ## The handlers and the calls -/

section Run

variable {α : Type} {port : Port} {telemetry : Telemetry} {exact exact' : Prop} {t₀ t t₁ : Thread}
  {items rest : List (Item α)} {self : CallSpan}

theorem Upheld.weaken (h : Upheld port exact t₀ items t) (himp : exact' → exact) : Upheld port exact' t₀ items t :=
  { h with headers := fun he => h.headers (himp he) }

theorem Upheld.of_other {item : α} (h : Upheld port exact t₀ (.other item :: rest) t) : Upheld port exact t₀ rest t :=
  { h with unmarked := fun hport self hm => h.unmarked hport self (List.mem_cons_of_mem _ hm) }

theorem Upheld.other (h : Upheld port exact t₀ items t) (item : α) : Upheld port exact t₀ (.other item :: items) t :=
  { h with unmarked := fun hport self hm => h.unmarked hport self (by simpa using hm) }

theorem Upheld.of_marked (hm : self.completed = true) (h : Upheld port exact t₀ (.callSpan self :: rest) t) :
    Upheld port exact t₀ rest t where
  current := openSpans_completed hm rest ▸ h.current
  fresh := h.fresh
  headers := openSpans_completed hm rest ▸ h.headers
  unmarked hport self' hm' := h.unmarked hport self' (List.mem_cons_of_mem _ hm')

/-- The innermost call span is current and live. -/
theorem Upheld.innermost (hf : self.completed = false) (h : Upheld port exact t₀ (.callSpan self :: rest) t) :
    t.current = some self.span ∧ self.span.number ∈ t.live := by
  have hc := h.current
  rw [openSpans_fresh hf] at hc
  obtain ⟨hcurrent, below, hlive, -, -⟩ := hc
  exact ⟨hcurrent, by rw [hlive]; exact List.mem_cons_self⟩

/-- Once it is closed the items below hold the thread. -/
theorem Upheld.close (hf : self.completed = false) (h : Upheld port exact t₀ (.callSpan self :: rest) t)
    (hstarted : t₁.started = t.started) (hsame : t₁.live = t.live)
    (hheaders : exact' → Layered t₀ (openSpans rest) t₁.localHeaders) : Upheld port exact' t₀ rest (t₁.close self) := by
  have hc := h.current
  rw [openSpans_fresh hf] at hc
  obtain ⟨-, below, hlive, hnot, hrest⟩ := hc
  have hbelow : (t₁.close self).live = below := by
    show t₁.live.filter (· != self.span.number) = below
    rw [hsame, hlive, List.filter_cons_of_neg (by simp), List.filter_eq_self]
    intro number hm
    exact bne_iff_ne.2 fun heq => hnot (heq ▸ hm)
  refine ⟨?_, fun number hm => ?_, hheaders, fun hport self' hm => ?_⟩
  · rw [hbelow]
    exact hrest
  · rw [hbelow] at hm
    have hlt := h.fresh number (by rw [hlive]; exact List.mem_cons_of_mem _ hm)
    rw [← hstarted] at hlt
    exact hlt
  · exact h.unmarked hport self' (List.mem_cons_of_mem _ hm)

theorem Upheld.quiet (h : Upheld port exact t₀ items t) (q : Quiet t t₁) : Upheld port exact t₀ items t₁ where
  current := by
    rw [q.2.1, q.2.2.2]
    exact h.current
  fresh number hm := by
    rw [q.2.2.1]
    exact h.fresh number (q.2.2.2 ▸ hm)
  headers he := by
    rw [q.1]
    exact h.headers he
  unmarked := h.unmarked

/-- What the handler of an end makes of the items and the thread. -/
structure Ends (port : Port) (e : End) (exact : Prop) (t₀ : Thread) (items : List (Item α))
    (left : List (Item α) × Thread) : Prop where
  holds : Upheld port (exact ∧ (port = .dotnet ∨ e.Calm)) t₀ left.1 left.2
  others : others left.1 = others items
  calm : e.Calm → openSpans left.1 = []
  shrinks : (openSpans left.1).length ≤ (openSpans items).length
  fewer : port ≠ .dotnet → (openSpans left.1).length ≤ (openSpans items).length - 1

theorem completeSpans_ends (telemetry : Telemetry) (e : End) : ∀ (items : List (Item α)) {t : Thread},
    Upheld port exact t₀ items t → Ends port e exact t₀ items (completeSpans port telemetry e items t).1
  | [], t, h                      => ⟨h.weaken And.left, rfl, fun _ => rfl, Nat.le_refl _, fun _ => Nat.zero_le _⟩
  | .other item :: rest, t, h     => by
    have ih := completeSpans_ends telemetry e rest h.of_other
    exact ⟨ih.holds.other item, congrArg (item :: ·) ih.others, ih.calm, ih.shrinks, ih.fewer⟩
  | .callSpan self :: rest, t, h  => by
    cases hm : self.completed with
    | true  =>
      have hport : port ≠ .dotnet := fun hport => by
        have hfresh := h.unmarked hport self List.mem_cons_self
        rw [hm] at hfresh
        cases hfresh
      have ih := completeSpans_ends telemetry e rest (h.of_marked hm)
      rw [completeSpans, complete_marked hport hm]
      exact ⟨ih.holds, ih.others, ih.calm, openSpans_completed hm rest ▸ ih.shrinks,
        openSpans_completed hm rest ▸ ih.fewer⟩
    | false =>
      have hopen := openSpans_fresh hm rest
      obtain ⟨hcurrent, hlive⟩ := h.innermost hm
      have hc := completes port telemetry.settings (e.instruments self.span.number) e.response e.exception hm hcurrent
        hlive
      rw [completeSpans]
      generalize port.complete telemetry.settings (e.instruments self.span.number) e.response e.exception (self, t) =
        result at hc
      cases hc with
      | closed self' t₁ q                     =>
        have hheaders : exact → Layered t₀ (openSpans rest) (self.before t₁.localHeaders) := fun he => by
          have hl := h.headers he
          rw [hopen] at hl
          rw [q.1]
          exact hl
        have hclosed : Upheld port exact t₀ rest ((self.restored t₁).close self) :=
          h.close hm q.2.2.1 q.2.2.2 hheaders
        have ih := completeSpans_ends telemetry e rest hclosed
        refine ⟨ih.holds, ih.others, ih.calm, ?_, fun hport => ?_⟩
        · rw [hopen, List.length_cons]
          exact Nat.le_succ_of_le ih.shrinks
        · rw [hopen, List.length_cons, Nat.add_sub_cancel]
          exact ih.shrinks
      | marked failure t₁ q fails port_ne     =>
        have hnot : ¬ (exact ∧ (port = .dotnet ∨ e.Calm)) := fun ⟨_, h'⟩ =>
          h'.elim port_ne fun hcalm => fails (hcalm _)
        have hrest : openSpans (.callSpan { self with completed := true } :: rest) = openSpans rest :=
          openSpans_completed rfl rest
        have hclose := h.close hm q.2.2.1 q.2.2.2 fun h' => absurd h' hnot
        refine ⟨⟨?_, hclose.fresh, fun h' => absurd h' hnot, fun h' => absurd h' port_ne⟩, rfl,
          fun hcalm => absurd (hcalm _) fails, ?_, fun _ => ?_⟩
        · show Current t₀ (openSpans (.callSpan { self with completed := true } :: rest)) _ _
          rw [hrest]
          exact hclose.current
        · rw [hrest, hopen, List.length_cons]
          exact Nat.le_succ _
        · rw [hrest, hopen, List.length_cons, Nat.add_sub_cancel]
      | left failure t₁ q fails port_eq       =>
        exact ⟨(h.quiet q).weaken And.left, rfl, fun hcalm => absurd (hcalm _) fails, Nat.le_refl _,
          fun hport => absurd port_eq hport⟩

/-- What the handlers of an end make of the items and the thread, in turn. -/
theorem onEnd_ends (telemetry : Telemetry) : ∀ (ends : List End) {exact : Prop} {s : List (Item α) × Thread},
    Upheld port exact t₀ s.1 s.2 →
      Upheld port (exact ∧ (port = .dotnet ∨ ∀ e ∈ ends, e.Calm)) t₀ (onEnd port telemetry ends s).1
        (onEnd port telemetry ends s).2 ∧
      others (onEnd port telemetry ends s).1 = others s.1 ∧
      ((∃ e ∈ ends, e.Calm) ∨ openSpans s.1 = [] → openSpans (onEnd port telemetry ends s).1 = []) ∧
      (port ≠ .dotnet → (openSpans (onEnd port telemetry ends s).1).length ≤ (openSpans s.1).length - ends.length)
  | [], exact, s, h        => by
    refine ⟨h.weaken And.left, rfl, fun hnil => hnil.resolve_left ?_, fun _ => Nat.le_refl _⟩
    rintro ⟨e, hm, -⟩
    exact absurd hm List.not_mem_nil
  | e :: ends, exact, s, h => by
    have he := completeSpans_ends telemetry e s.1 h
    obtain ⟨hholds, hothers, hnil, hfewer⟩ := onEnd_ends telemetry ends he.holds
    refine ⟨hholds.weaken ?_, hothers.trans he.others, fun hcase => hnil ?_, fun hport => ?_⟩
    · rintro ⟨hexact, hport | hcalm⟩
      · exact ⟨⟨hexact, Or.inl hport⟩, Or.inl hport⟩
      · obtain ⟨hcalm, hall⟩ := List.forall_mem_cons.1 hcalm
        exact ⟨⟨hexact, Or.inr hcalm⟩, Or.inr hall⟩
    · rcases hcase with hsome | hempty
      · rcases (List.exists_mem_cons_iff ..).1 hsome with hcalm | hsome
        · exact Or.inr (he.calm hcalm)
        · exact Or.inl hsome
      · have hshrinks := he.shrinks
        rw [hempty] at hshrinks
        exact Or.inr (List.eq_nil_of_length_eq_zero (Nat.le_zero.1 hshrinks))
    · have h₁ := hfewer hport
      have h₂ := he.fewer hport
      simp only [onEnd, List.length_cons]
      omega

/-- A handler of a beginning that raises nothing. -/
theorem onStart_holds (telemetry : Telemetry) {i : Instruments} (hcalm : i.Calm) (opening : Opening)
    {s : List (Item α) × Thread} (h : Upheld port exact t₀ s.1 s.2) :
    Upheld port exact t₀ (onStart port telemetry i opening s).1 (onStart port telemetry i opening s).2 ∧
      others (onStart port telemetry i opening s).1 = others s.1 ∧
      (openSpans (onStart port telemetry i opening s).1).length ≤ (openSpans s.1).length + 1 := by
  have hs := start_starts port telemetry ⟨opening, none, none, i, i⟩ s.2
  unfold Starts at hs
  unfold onStart
  cases hspan : opening.span (port.source telemetry) s.2 with
  | none      =>
    rw [hspan] at hs
    rw [hs]
    exact ⟨h, rfl, Nat.le_succ _⟩
  | some span =>
    rw [hspan] at hs
    obtain ⟨self, t, hok, ho⟩ := hs.1 fun step _ => hcalm step
    rw [hok]
    have hopen := openSpans_fresh ho.fresh s.1
    have hnumber : self.span.number = s.2.started := ho.span_eq ▸ Opening.span_number hspan
    refine ⟨⟨?_, fun number hm => ?_, fun he => ?_, fun hport self' hm => ?_⟩, rfl, ?_⟩
    · show Current t₀ (openSpans (.callSpan self :: s.1)) t.current t.live
      rw [hopen, ho.current, ho.live, ← hnumber, ← ho.span_eq]
      refine ⟨rfl, s.2.live, rfl, fun hm => ?_, ho.token ▸ h.current⟩
      exact absurd (hnumber ▸ h.fresh _ hm) (Nat.lt_irrefl _)
    · rw [ho.live] at hm
      rw [ho.started]
      rcases List.mem_cons.1 hm with rfl | hm
      · exact Nat.lt_succ_self _
      · exact Nat.lt_succ_of_lt (h.fresh number hm)
    · show Layered t₀ (openSpans (.callSpan self :: s.1)) t.localHeaders
      rw [hopen]
      show Layered t₀ (openSpans s.1) (self.before t.localHeaders)
      rw [ho.before]
      exact h.headers he
    · rcases List.mem_cons.1 hm with heq | hm
      · cases heq
        exact ho.fresh
      · exact h.unmarked hport self' hm
    · show (openSpans (.callSpan self :: s.1)).length ≤ _
      rw [hopen, List.length_cons]

/-- A thread before a call, whose context is empty. -/
theorem upheld_empty (ht : t.Fresh) : Upheld port True t ([] : List (Item α)) t :=
  ⟨⟨rfl, rfl⟩, ht, fun _ => rfl, fun _ _ hm => absurd hm List.not_mem_nil⟩

/-- A call whose handlers have ended it, from the thread it found. -/
structure Restored (port : Port) (exact : Prop) (inside : Traffic α) (t : Thread) (left : List (Item α) × Thread) :
    Prop where
  current : left.2.current = t.current
  live : left.2.live = t.live
  fresh : left.2.Fresh
  openSpans : openSpans left.1 = []
  others : others left.1 = inside.puts []
  headers : exact → left.2.localHeaders = t.localHeaders

theorem Upheld.restored (telemetry : Telemetry) {inside : Traffic α} {ends : List End} {s : List (Item α) × Thread}
    (hended : Traffic.Ended port inside ends) (h : Upheld port (port = .dotnet ∨ inside.Calm) t s.1 s.2)
    (hothers : others s.1 = inside.puts []) (hlength : (openSpans s.1).length ≤ inside.starts) :
    Restored port (port = .dotnet ∨ (∀ e ∈ ends, e.Calm) ∧ inside.Calm) inside t (onEnd port telemetry ends s) := by
  obtain ⟨hholds, hsame, hnil, hfewer⟩ := onEnd_ends telemetry ends h
  -- every call span of the call is closed
  have hempty : openSpans (onEnd port telemetry ends s).1 = [] := by
    rcases hended with hcalm | ⟨hport, hle⟩
    · exact hnil (Or.inl hcalm)
    · have hle' := hfewer hport
      exact List.eq_nil_of_length_eq_zero (by omega)
  have hcurrent := hholds.current
  have hheaders := hholds.headers
  rw [hempty] at hcurrent hheaders
  exact ⟨hcurrent.1, hcurrent.2, hholds.fresh, hempty, hsame.trans hothers,
    fun hcalm => hheaders ⟨hcalm.imp_right And.right, hcalm.imp_right And.left⟩⟩

/-- **What the traffic of a thread does to the items of a call and to the thread.** -/
theorem Traffic.run_holds (telemetry : Telemetry) : ∀ (traffic : Traffic α) {exact : Prop} {t₀ : Thread}
    {s : List (Item α) × Thread}, traffic.Closed port → Upheld port exact t₀ s.1 s.2 →
      Upheld port (exact ∧ (port = .dotnet ∨ traffic.Calm)) t₀ (traffic.run port telemetry s).1
        (traffic.run port telemetry s).2 ∧
      others (traffic.run port telemetry s).1 = traffic.puts (others s.1) ∧
      (openSpans (traffic.run port telemetry s).1).length ≤ (openSpans s.1).length + traffic.starts
  | .quiet, exact, t₀, s, _, h                       => ⟨h.weaken And.left, rfl, Nat.le_refl _⟩
  | .put item rest, exact, t₀, s, hclosed, h         => rest.run_holds telemetry hclosed (h.other item)
  | .start i opening rest, exact, t₀, s, hclosed, h  => by
    obtain ⟨hholds, hothers, hlength⟩ := onStart_holds telemetry hclosed.1 opening h
    obtain ⟨hholds', hothers', hlength'⟩ := rest.run_holds telemetry hclosed.2 hholds
    refine ⟨hholds', hothers'.trans (congrArg rest.puts hothers), ?_⟩
    simp only [run, starts]
    omega
  | .call inside ends rest, exact, t₀, s, hclosed, h => by
    obtain ⟨hended, hinside, hrest⟩ := hclosed
    obtain ⟨hholds, hputs, hlength⟩ := inside.run_holds telemetry (s := ([], s.2)) hinside (upheld_empty h.fresh)
    have hr := (hholds.weaken fun hcalm => ⟨trivial, hcalm⟩).restored telemetry hended hputs
      (by simpa using hlength)
    have hnext : Upheld port (exact ∧ (port = .dotnet ∨ (∀ e ∈ ends, e.Calm) ∧ inside.Calm)) t₀ s.1
        (onEnd port telemetry ends (inside.run port telemetry ([], s.2))).2 := by
      refine ⟨?_, hr.fresh, fun ⟨he, hcalm⟩ => ?_, h.unmarked⟩
      · rw [hr.current, hr.live]
        exact h.current
      · rw [hr.headers hcalm]
        exact h.headers he
    obtain ⟨hlast, hothers, hcount⟩ := rest.run_holds telemetry
      (s := (s.1, (onEnd port telemetry ends (inside.run port telemetry ([], s.2))).2)) hrest hnext
    refine ⟨hlast.weaken ?_, hothers, hcount⟩
    rintro ⟨he, hport | ⟨hends, hin, hre⟩⟩
    · exact ⟨⟨he, Or.inl hport⟩, Or.inl hport⟩
    · exact ⟨⟨he, Or.inr ⟨hends, hin⟩⟩, Or.inr hre⟩

/-- **A call leaves the thread as it found it**, with whatever calls are made inside it, as many instrumentations as are
attached and other items among theirs: no step of a start raises, and of the handlers of the end one raises nothing or,
in Python and Java, they are no fewer than those of the beginning.  Then its context is current again, its spans have
ended and the items of others are as they were put; the headers are back too, in .NET always, in Python and Java when no
handler of an end raises. -/
theorem call_leaves_thread (port : Port) (telemetry : Telemetry) (inside : Traffic α) (ends : List End) (t : Thread)
    (ht : t.Fresh) (hclosed : inside.Closed port) (hended : Traffic.Ended port inside ends) :
    Restored port (port = .dotnet ∨ (∀ e ∈ ends, e.Calm) ∧ inside.Calm) inside t
      (onEnd port telemetry ends (inside.run port telemetry ([], t))) := by
  obtain ⟨hholds, hputs, hlength⟩ := inside.run_holds telemetry (s := ([], t)) hclosed (upheld_empty ht)
  apply (hholds.weaken fun hcalm => ⟨trivial, hcalm⟩).restored telemetry hended hputs
  simpa using hlength

end Run

/-! ## A call inside a call, when no response can be rendered -/

section Demo

def unrendered : End := ⟨fun _ => unrenderable, some fetch, none⟩

def nested : Traffic Nat :=
  .start calm (.invoke fetch plain)
    (.put 7 (.call (.start calm (.invoke fetch plain) .quiet) [unrendered] .quiet))

theorem call_leaves_thread_nested :
    Restored .python (Port.python = .dotnet ∨ (∀ e ∈ [unrendered], e.Calm) ∧ nested.Calm) nested {}
      (onEnd .python capturing [unrendered] (nested.run .python capturing ([], {}))) := by
  have hended : ∀ inside : Traffic Nat, inside.starts = 1 → Traffic.Ended .python inside [unrendered] :=
    fun inside h => Or.inr ⟨by decide, Nat.le_of_eq h⟩
  refine call_leaves_thread .python capturing nested [unrendered] {} (fun number hm => absurd hm List.not_mem_nil) ?_
    (hended nested rfl)
  exact ⟨calm_not_fails, hended _ rfl, ⟨calm_not_fails, trivial⟩, trivial⟩

example : others (nested.run .python capturing ([], {})).1 = [7] := by decide +kernel

end Demo

end Tracing
end Graftcode
