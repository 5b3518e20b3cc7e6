import Graftcode.CallSpanRuns
/-!
# AppTraceParent — the `traceparent` an application has set on a connection

Injection looks for a header named exactly `traceparent`, which the application may have spelled otherwise, and takes
one in the thread's headers for its own, though a span on another connection may have put it there; and what it writes
overlays the headers of every connection.  Runs that keep clear of the three leave the application's `traceparent`
alone.
-/
namespace Graftcode
namespace Tracing

open Act

/-- A name that is `traceparent` up to letter case. -/
def IsTraceParent (name : Text) : Prop := lower name = traceParentHeader

/-- The application has set a `traceparent` on the connection, however it spelled it. -/
def Carries (connection : ConnectionData) : Prop :=
  ∃ name, IsTraceParent name ∧ connection.headers name ≠ none

/-- `get_headers` yields the application's `traceparent`, and no second one. -/
def Kept (connection : ConnectionData) (threadLocal : Headers) : Prop :=
  ∀ name value, IsTraceParent name → connection.headers name = some value →
    connection.getHeaders threadLocal name = some value ∧
      ∀ other, IsTraceParent other → connection.getHeaders threadLocal other ≠ none → other = name

/-- The connection of an invocation. -/
def Opening.connection? : Opening → Option ConnectionData
  | invoke _ connection => some connection
  | handle _ _          => none

/-- So it is for all invocations that are open. -/
def AllKept (opened : List Entry) (threadLocal : Headers) : Prop :=
  ∀ entry ∈ opened, ∀ connection, entry.opening.connection? = some connection → Kept connection threadLocal

/-- The one `traceparent` of the connection is the only one its invocation will see. -/
def Unrivalled (connection : ConnectionData) (threadLocal : Headers) : Prop :=
  (∀ name other, IsTraceParent name → IsTraceParent other → connection.headers name ≠ none →
    connection.headers other ≠ none → other = name) ∧
  ∀ name value, IsTraceParent name → threadLocal name = some value → connection.headers name = some value

/-- An invocation that starts on a connection with an application's `traceparent` does so where no other is in the
thread's headers; and one that is injected is neither on such a connection nor inside an invocation on one. -/
def Respects (runtime : Runtime) (s : Session) : Move → Prop
  | .start i (.invoke command connection) =>
    ∀ span, (Opening.invoke command connection).span runtime.tracer.source s.thread = some span →
      (∀ step ∈ (Opening.invoke command connection).steps i runtime.settings presentSteps span, ¬ i.Fails step) →
      (Carries connection → Unrivalled connection s.thread.localHeaders) ∧
      ((Opening.invoke command connection).into runtime.settings span s.thread ≠ none →
        ¬ Carries connection ∧ ∀ entry ∈ s.opened, ∀ outer, entry.opening.connection? = some outer → ¬ Carries outer)
  | _                                     => True

theorem isTraceParent_self : IsTraceParent traceParentHeader := by
  unfold IsTraceParent
  decide

theorem kept_of_not_carries {connection : ConnectionData} (h : ¬ Carries connection) (threadLocal : Headers) :
    Kept connection threadLocal :=
  fun name value hname hvalue => absurd ⟨name, hname, by rw [hvalue]; simp⟩ h

theorem kept_of_unrivalled {connection : ConnectionData} {threadLocal : Headers}
    (h : Unrivalled connection threadLocal) : Kept connection threadLocal := by
  obtain ⟨honly, hlocal⟩ := h
  have hget : ∀ name value, IsTraceParent name → connection.getHeaders threadLocal name = some value →
      connection.headers name = some value := by
    intro name value hname hg
    cases hl : threadLocal name with
    | none        => rwa [connection.getHeaders_none hl] at hg
    | some value' =>
      rw [connection.getHeaders_some hl] at hg
      cases hg
      exact hlocal name value hname hl
  intro name value hname hvalue
  refine ⟨?_, fun other hother hne => ?_⟩
  · cases hl : threadLocal name with
    | none        => rw [connection.getHeaders_none hl, hvalue]
    | some value' => rw [connection.getHeaders_some hl, ← hlocal name value' hname hl, hvalue]
  · obtain ⟨value', hg⟩ := Option.ne_none_iff_exists'.1 hne
    exact honly name other hname hother (by rw [hvalue]; simp) (by rw [hget other value' hother hg]; simp)

/-! ## The open invocations, each at its own headers -/

/-- The invocations open at a level of the stack see their `traceparent` in the headers of that level. -/
def KeptBelow : List Entry → Headers → Prop
  | [], _            => True
  | entry :: rest, h => AllKept (entry :: rest) h ∧ KeptBelow rest (entry.callSpan.before h)

theorem KeptBelow.allKept {opened : List Entry} {h : Headers} (hk : KeptBelow opened h) : AllKept opened h := by
  cases opened with
  | nil             => exact fun _ he => absurd he List.not_mem_nil
  | cons entry rest => exact hk.1

/-- Headers that were not given back do, too, when all open invocations see theirs in them. -/
theorem KeptBelow.left {h h' : Headers} :
    ∀ {opened : List Entry}, KeptBelow opened h' → AllKept opened h → KeptBelow opened h
  | [], _, _             => trivial
  | entry :: rest, hk, ha => by
    have hrest : AllKept rest h := fun e he => ha e (List.mem_cons_of_mem _ he)
    refine ⟨ha, ?_⟩
    have hbelow := hk.2
    unfold CallSpan.before at hbelow ⊢
    cases hinto : entry.callSpan.injectedInto with
    | none            =>
      rw [hinto] at hbelow
      exact hbelow.left hrest
    | some connection => rwa [hinto] at hbelow

section Run

variable {runtime : Runtime} {s s' : Session} {u : Unit}

/-- **A step that respects it keeps the application's `traceparent`.** -/
theorem KeptBelow.step {move : Move} (hk : KeptBelow s.opened s.thread.localHeaders) (hr : Respects runtime s move)
    (h : Stepped runtime s move s') : KeptBelow s'.opened s'.thread.localHeaders := by
  cases h with
  | skipped i opening => exact hk
  | started i opening span callSpan t hspan hcalm ho =>
    refine ⟨List.forall_mem_cons.2 ?_, by rw [ho.before]; exact hk⟩
    show (∀ connection, opening.connection? = some connection → Kept connection t.localHeaders) ∧
      AllKept s.opened t.localHeaders
    cases opening with
    | handle command headers    =>
      have hsame : t.localHeaders = s.thread.localHeaders := ho.headers
      rw [hsame]
      exact ⟨fun connection h => (by cases h), hk.allKept⟩
    | invoke command connection =>
      obtain ⟨hcarries, hinjected⟩ := hr span hspan hcalm
      by_cases hinto : (Opening.invoke command connection).into runtime.settings span s.thread = none
      · rw [ho.headers, if_pos hinto]
        refine ⟨fun c hc => ?_, hk.allKept⟩
        cases hc
        by_cases hcarry : Carries connection
        · exact kept_of_unrivalled (hcarries hcarry)
        · exact kept_of_not_carries hcarry _
      · obtain ⟨hnew, hold⟩ := hinjected hinto
        refine ⟨fun c hc => ?_, fun entry he outer ho => kept_of_not_carries (hold entry he outer ho) _⟩
        cases hc
        exact kept_of_not_carries hnew _
  | raised i opening t _ hheaders =>
    show KeptBelow s.opened t.localHeaders
    rw [hheaders]
    exact hk
  | completed i response exception entry rest t hopened hc =>
    rw [hopened] at hk
    show KeptBelow rest t.localHeaders
    rcases hc with ⟨hheaders, -⟩ | ⟨-, hheaders⟩
    · rw [hheaders]
      exact hk.2
    · rw [hheaders]
      exact hk.2.left fun e he => hk.1 e (List.mem_cons_of_mem _ he)
  | again index i response exception => exact hk

/-- **An application's `traceparent` is never overwritten** in a run whose invocations respect it. -/
theorem allKept_of_respects (runtime : Runtime) (t₀ : Thread) (moves : List Move) {s : Session} {events : List Unit}
    (hrun : Machine.run (step runtime) ⟨t₀, [], []⟩ moves = some (s, events))
    (hrespects : Machine.Along (Respects runtime) (step runtime) ⟨t₀, [], []⟩ moves) :
    AllKept s.opened s.thread.localHeaders := by
  have hbase : KeptBelow [] t₀.localHeaders := trivial
  obtain ⟨-, hk⟩ := Machine.run_along (P := fun s _ => s.Sound ∧ KeptBelow s.opened s.thread.localHeaders)
    (fun s t move s' e hr hP hs => by
      have h := hP.1.stepped hs
      exact ⟨hP.1.step h, hP.2.step hr h⟩)
    moves (t := []) hrespects ⟨sound_init t₀, hbase⟩ hrun
  exact hk.allKept

def carrying : ConnectionData :=
  ⟨"InMemory".toList, none, Headers.empty.set traceParentHeader "00-4bf9-00f0-01".toList⟩

theorem carrying_headers :
    carrying.headers = Headers.empty.set traceParentHeader "00-4bf9-00f0-01".toList := rfl

/-- It respects a connection's `traceparent` to start on it while no span's is in the thread's headers. -/
theorem respects_carrying (i : Instruments) (h₀ : s.thread.localHeaders = Headers.empty) :
    Respects numbered s (.start i (.invoke fetch carrying)) := by
  have hname : ∀ name, carrying.headers name ≠ none → name = traceParentHeader := by
    intro name hne
    by_contra h
    exact hne (Headers.set_of_ne _ _ h)
  intro span _ _
  refine ⟨fun _ => ⟨fun name other _ _ hn ho => (hname other ho).trans (hname name hn).symm, ?_⟩, fun hinto => ?_⟩
  · intro name value _ hl
    rw [h₀] at hl
    cases hl
  · have hno : ¬ injects span.context carrying s.thread.localHeaders = true := by
      rw [injects_iff, h₀]
      rintro ⟨-, hown | hlocal⟩
      · rw [carrying_headers, Headers.set_self] at hown
        cases hown
      · cases hlocal
    exact absurd (if_neg (by simpa [numbered] using hno)) hinto

/-- An invocation that is injected, on a connection without a `traceparent`, before one on a connection that has one. -/
def handled : List Move :=
  [.start calm (.invoke fetch plain), .complete calm none none, .start calm (.invoke fetch carrying),
    .start calm (.handle fetch Headers.empty)]

/-- Once the first has been completed, the headers are as before. -/
theorem localHeaders_completed {s₁ s₂ : Session} {u₁ u₂ : Unit}
    (h₁ : step numbered ⟨{}, [], []⟩ (.start calm (.invoke fetch plain)) = some (s₁, u₁))
    (h₂ : step numbered s₁ (.complete calm none none) = some (s₂, u₂)) : s₂.thread.localHeaders = Headers.empty := by
  have hcalm : Move.Calm (.start calm (.invoke fetch plain)) ∧ Move.Calm (.complete calm none none) :=
    ⟨calm_not_fails, calm_not_fails⟩
  have hs := (sound_init {}).stepped h₁
  have hs' := ((sound_init {}).step hs).stepped h₂
  have hstack := Stacked.step hcalm.2 (Stacked.step hcalm.1 (s := ⟨{}, [], []⟩) ⟨rfl, rfl⟩ hs) hs'
  have hopened : s₁.opened.length ≤ 1 := by
    cases hs with
    | skipped => exact Nat.zero_le 1
    | started => exact Nat.le_refl 1
    | raised  => exact Nat.zero_le 1
  cases hs' with
  | completed _ _ _ entry rest t hrest _ =>
    rw [hrest] at hopened
    obtain rfl : rest = [] := List.eq_nil_of_length_eq_zero (by simpa using hopened)
    exact hstack.1

theorem allKept_of_respects_handled :
    ∃ s events, Machine.run (step numbered) ⟨{}, [], []⟩ handled = some (s, events) ∧
      s.opened.length = 2 ∧ AllKept s.opened s.thread.localHeaders := by
  have hrun : (Machine.run (step numbered) ⟨{}, [], []⟩ handled).map (fun r => r.1.opened.length) = some 2 := by
    decide +kernel
  obtain ⟨⟨s, events⟩, hs, hlength⟩ := Option.map_eq_some_iff.1 hrun
  refine ⟨s, events, hs, hlength, allKept_of_respects numbered {} handled hs ⟨fun span _ _ => ?_, fun s₁ u₁ h₁ =>
    ⟨trivial, fun s₂ u₂ h₂ => ⟨respects_carrying calm (localHeaders_completed h₁ h₂), fun _ _ _ =>
      ⟨trivial, fun _ _ _ => trivial⟩⟩⟩⟩⟩
  have hplain : ¬ Carries plain := fun ⟨_, _, h⟩ => h rfl
  exact ⟨fun h => absurd h hplain, fun _ => ⟨hplain, fun _ h => absurd h List.not_mem_nil⟩⟩

/-- An invocation on the connection inside an injected one on another. -/
theorem not_allKept_nested :
    ¬ ∀ s events, Machine.run (step numbered) ⟨{}, [], []⟩
        [.start calm (.invoke fetch plain), .start calm (.invoke fetch carrying)] = some (s, events) →
      AllKept s.opened s.thread.localHeaders := by
  intro hall
  have hrun : (Machine.run (step numbered) ⟨{}, [], []⟩
      [.start calm (.invoke fetch plain), .start calm (.invoke fetch carrying)]).map (fun r =>
        (r.1.opened.head?.bind fun entry => entry.opening.connection?.bind fun c => c.headers traceParentHeader,
          r.1.thread.localHeaders traceParentHeader)) =
      some (some "00-4bf9-00f0-01".toList, some "00-0af7-11-01".toList) := by
    decide +kernel
  obtain ⟨⟨s, events⟩, hs, hseen⟩ := Option.map_eq_some_iff.1 hrun
  simp only [Prod.mk.injEq, Option.bind_eq_some_iff] at hseen
  obtain ⟨⟨entry, hhead, connection, hconnection, hown⟩, hlocal⟩ := hseen
  have hkept := hall s events hs entry (List.mem_of_mem_head? hhead) connection hconnection
  obtain ⟨hget, -⟩ := hkept traceParentHeader _ isTraceParent_self hown
  rw [connection.getHeaders_some hlocal] at hget
  exact absurd (Option.some.inj hget) (by decide)

end Run

end Tracing
end Graftcode
