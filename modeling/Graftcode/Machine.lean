import Mathlib.Data.List.Basic
/-!
# Machine — runs of a step function

A machine answers an action with its next state and one event, or refuses it (`none`).  A run is a list of actions
from a state; its history is the list of their events.
-/
namespace Graftcode
namespace Machine

variable {σ α ω : Type}

/-- The state a list of actions reaches and its events, when every action is accepted. -/
def run (step : σ → α → Option (σ × ω)) : σ → List α → Option (σ × List ω)
  | s, []      => some (s, [])
  | s, a :: as =>
    match step s a with
    | none         => none
    | some (s', e) => (run step s' as).map (fun r => (r.1, e :: r.2))

variable {step : σ → α → Option (σ × ω)}

theorem run_cons {s s' : σ} {a : α} {as : List α} {es : List ω} :
    run step s (a :: as) = some (s', es) ↔
      ∃ s₁ e es₁, step s a = some (s₁, e) ∧ run step s₁ as = some (s', es₁) ∧ es = e :: es₁ := by
  rw [run]
  cases hs : step s a with
  | none => simp
  | some r =>
    obtain ⟨s₁, e⟩ := r
    simp only [Option.map_eq_some_iff, Prod.mk.injEq, Prod.exists, Option.some.injEq]
    constructor
    · rintro ⟨t, es₁, ht, rfl, rfl⟩
      exact ⟨s₁, e, es₁, ⟨rfl, rfl⟩, ht, rfl⟩
    · rintro ⟨s₂, e', es₁, ⟨rfl, rfl⟩, ht, rfl⟩
      exact ⟨s', es₁, ht, rfl, rfl⟩

theorem run_append : ∀ {as bs : List α} {s s' s'' : σ} {es fs : List ω}, run step s as = some (s', es) →
    run step s' bs = some (s'', fs) → run step s (as ++ bs) = some (s'', es ++ fs)
  | [], bs, s, s', s'', es, fs, hr, hs => by
    cases hr
    exact hs
  | a :: as, bs, s, s', s'', es, fs, hr, hs => by
    obtain ⟨s₁, e₁, es₁, hs₁, ht, rfl⟩ := run_cons.1 hr
    exact run_cons.2 ⟨s₁, e₁, es₁ ++ fs, hs₁, run_append ht hs, rfl⟩

theorem run_singleton {s s' : σ} {a : α} {e : ω} (hs : step s a = some (s', e)) : run step s [a] = some (s', [e]) :=
  run_cons.2 ⟨s', e, [], hs, rfl, rfl⟩

theorem run_concat : ∀ {as : List α} {s s' s'' : σ} {es : List ω} {a : α} {e : ω}, run step s as = some (s', es) →
    step s' a = some (s'', e) → run step s (as ++ [a]) = some (s'', es ++ [e])
  | [], s, s', s'', es, a, e, hr, hs => by
    cases hr
    exact run_cons.2 ⟨s'', e, [], hs, rfl, rfl⟩
  | b :: as, s, s', s'', es, a, e, hr, hs => by
    obtain ⟨s₁, e₁, es₁, hs₁, ht, rfl⟩ := run_cons.1 hr
    exact run_cons.2 ⟨s₁, e₁, es₁ ++ [e], hs₁, run_concat ht hs, rfl⟩

/-- **The run rule**: what every step keeps, of the state and of the history (latest event first), a run keeps. -/
theorem run_invariant {P : σ → List ω → Prop}
    (hstep : ∀ s h a s' e, P s h → step s a = some (s', e) → P s' (e :: h)) :
    ∀ (as : List α) {s s' : σ} {h es : List ω}, P s h → run step s as = some (s', es) → P s' (es.reverse ++ h)
  | [], s, s', h, es, hP, hr => by
    simp only [run, Option.some.injEq, Prod.mk.injEq] at hr
    obtain ⟨rfl, rfl⟩ := hr
    exact hP
  | a :: as, s, s', h, es, hP, hr => by
    obtain ⟨s₁, e, es₁, hs, ht, rfl⟩ := run_cons.1 hr
    have := run_invariant hstep as (hstep s h a s₁ e hP hs) ht
    simpa using this

theorem run_state_invariant {P : σ → Prop} (hstep : ∀ s a s' e, P s → step s a = some (s', e) → P s')
    (as : List α) {s s' : σ} {es : List ω} (hP : P s) (hr : run step s as = some (s', es)) : P s' :=
  @run_invariant _ _ _ step (fun s _ => P s) (fun s _ a s' e hs => hstep s a s' e hs) as s s' [] es hP hr

/-- The run rule with the trace in order. -/
theorem run_trace {P : σ → List ω → Prop}
    (hstep : ∀ s t a s' e, P s t → step s a = some (s', e) → P s' (t ++ [e])) (as : List α) {s s' : σ} {t es : List ω}
    (hP : P s t) (hr : run step s as = some (s', es)) : P s' (t ++ es) := by
  have := @run_invariant _ _ _ step (fun s h => P s h.reverse)
    (fun s h a s' e hs ha => by simpa using hstep s h.reverse a s' e hs ha) as s s' t.reverse es (by simpa using hP) hr
  simpa using this

/-- Every action of the run meets a condition on the state it is taken in. -/
def Along (C : σ → α → Prop) (step : σ → α → Option (σ × ω)) : σ → List α → Prop
  | _, []      => True
  | s, a :: as => C s a ∧ ∀ s' e, step s a = some (s', e) → Along C step s' as

theorem along_cons {C : σ → α → Prop} {s s₁ : σ} {a : α} {as : List α} {e : ω} (hs : step s a = some (s₁, e))
    (hC : C s a) (h : Along C step s₁ as) : Along C step s (a :: as) :=
  ⟨hC, fun s' e' hs' => by rw [hs] at hs'; cases hs'; exact h⟩

theorem run_along {C : σ → α → Prop} {P : σ → List ω → Prop}
    (hstep : ∀ s t a s' e, C s a → P s t → step s a = some (s', e) → P s' (t ++ [e])) :
    ∀ (as : List α) {s s' : σ} {t es : List ω}, Along C step s as → P s t → run step s as = some (s', es) →
      P s' (t ++ es)
  | [], s, s', t, es, _, hP, hr => by
    simp only [run, Option.some.injEq, Prod.mk.injEq] at hr
    obtain ⟨rfl, rfl⟩ := hr
    simpa using hP
  | a :: as, s, s', t, es, hC, hP, hr => by
    obtain ⟨s₁, e, es₁, hs, ht, rfl⟩ := run_cons.1 hr
    have := run_along hstep as (hC.2 s₁ e hs) (hstep s t a s₁ e hC.1 hP hs) ht
    simpa using this

theorem along_of_forall {C : α → Prop} :
    ∀ (as : List α) (s : σ), (∀ a ∈ as, C a) → Along (fun _ a => C a) step s as
  | [], _, _      => trivial
  | a :: as, _, h =>
    ⟨h a List.mem_cons_self, fun s' _ _ => along_of_forall as s' fun b hb => h b (List.mem_cons_of_mem a hb)⟩

/-- A condition met along a run is met in each state that a beginning of it reaches. -/
theorem along_iff {C : σ → α → Prop} : ∀ {as : List α} {s : σ}, Along C step s as ↔
    ∀ pre a post s' es, as = pre ++ a :: post → run step s pre = some (s', es) → C s' a
  | [], s => by simp [Along]
  | a :: as, s => by
    constructor
    · rintro ⟨hC, hrest⟩ pre b post s' es hsplit hr
      cases pre with
      | nil =>
        cases hsplit
        cases hr
        exact hC
      | cons c pre =>
        obtain ⟨rfl, rfl⟩ := List.cons.inj hsplit
        obtain ⟨s₁, e, es₁, hs, ht, -⟩ := run_cons.1 hr
        exact along_iff.1 (hrest s₁ e hs) pre b post s' es₁ rfl ht
    · intro h
      refine ⟨h [] a as s [] rfl rfl, fun s₁ e hs => along_iff.2 ?_⟩
      intro pre b post s' es hsplit hr
      exact h (a :: pre) b post s' (e :: es) (by rw [hsplit]; rfl) (run_cons.2 ⟨s₁, e, es, hs, hr, rfl⟩)

/-- A run whose history has an event `e` stepped there. -/
theorem run_split : ∀ (pre : List ω) {as : List α} {s s' : σ} {e : ω} {post : List ω},
    run step s as = some (s', pre ++ e :: post) →
      ∃ as₁ a as₂ s₁ s₂, as = as₁ ++ a :: as₂ ∧ run step s as₁ = some (s₁, pre) ∧ step s₁ a = some (s₂, e) ∧
        run step s₂ as₂ = some (s', post)
  | pre, [], s, s', e, post, hr => by simp [run] at hr
  | [], a :: as, s, s', e, post, hr => by
    obtain ⟨s₁, e', es₁, hs, ht, he⟩ := run_cons.1 hr
    simp only [List.nil_append, List.cons.injEq] at he
    obtain ⟨rfl, rfl⟩ := he
    exact ⟨[], a, as, s, s₁, rfl, rfl, hs, ht⟩
  | x :: pre, a :: as, s, s', e, post, hr => by
    obtain ⟨s₁, e', es₁, hs, ht, he⟩ := run_cons.1 hr
    simp only [List.cons_append, List.cons.injEq] at he
    obtain ⟨rfl, rfl⟩ := he
    obtain ⟨as₁, b, as₂, t₁, t₂, rfl, h1, h2, h3⟩ := run_split pre ht
    exact ⟨a :: as₁, b, as₂, t₁, t₂, rfl, run_cons.2 ⟨s₁, x, pre, hs, h1, rfl⟩, h2, h3⟩

end Machine
end Graftcode
