import Mathlib.Data.List.Induction
import Mathlib.Logic.Function.Basic
import Graftcode.Interleaving
/-!
# Executions — programs that share a state

An execution is a trace of programs that run concurrently, replayed on the state they share: `step` says what an event
of an actor does to it, and refuses the events that cannot happen there.  The rule is that of rely and guarantee: an
invariant of the histories and the shared state grants each program what it relies on, and the invariant is kept by
every event the program may then have.
-/
namespace Graftcode

open Prog (Admits)

variable {Actor Ev σ ε : Type} [DecidableEq Actor]

/-- What every actor has done, latest event first. -/
def historiesOf (t : List (Actor × Ev)) (a : Actor) : List Ev := (ofActor a t).reverse

@[simp] theorem historiesOf_nil : historiesOf ([] : List (Actor × Ev)) = fun _ => [] := rfl

theorem historiesOf_concat (t : List (Actor × Ev)) (a : Actor) (e : Ev) :
    historiesOf (t ++ [(a, e)]) = Function.update (historiesOf t) a (e :: historiesOf t a) := by
  funext b
  by_cases hb : b = a
  · subst hb
    simp [historiesOf]
  · rw [Function.update_of_ne hb]
    simp [historiesOf, ofActor, Ne.symm hb]

theorem mem_historiesOf {a : Actor} {e : Ev} {t : List (Actor × Ev)} : e ∈ historiesOf t a ↔ (a, e) ∈ t := by
  rw [historiesOf, List.mem_reverse, mem_ofActor]

/-- An event of an actor's history, in the trace. -/
theorem split_of_historiesOf {a : Actor} {e : Ev} {later earlier : List Ev} {t : List (Actor × Ev)}
    (hh : historiesOf t a = later ++ e :: earlier) :
    ∃ before after, t = before ++ (a, e) :: after ∧ historiesOf before a = earlier ∧
      ofActor a after = later.reverse := by
  induction t using List.reverseRecOn generalizing later with
  | nil => simp at hh
  | append_singleton t x ih =>
    obtain ⟨b, f⟩ := x
    rw [historiesOf_concat] at hh
    by_cases hb : a = b
    · subst hb
      rw [Function.update_self] at hh
      cases later with
      | nil =>
        simp only [List.nil_append, List.cons.injEq] at hh
        obtain ⟨rfl, rfl⟩ := hh
        exact ⟨t, [], rfl, rfl, rfl⟩
      | cons l later =>
        simp only [List.cons_append, List.cons.injEq] at hh
        obtain ⟨rfl, hh⟩ := hh
        obtain ⟨before, after, ht, hbefore, hafter⟩ := ih hh
        refine ⟨before, after ++ [(a, f)], by rw [ht]; simp, hbefore, ?_⟩
        rw [ofActor_append, hafter]
        simp
    · rw [Function.update_of_ne hb] at hh
      obtain ⟨before, after, ht, hbefore, hafter⟩ := ih hh
      refine ⟨before, after ++ [(b, f)], by rw [ht]; simp, hbefore, ?_⟩
      rw [ofActor_append, hafter]
      simp [ofActor, Ne.symm hb]

/-- What an actor does next, if anything. -/
theorem ofActor_next (a : Actor) (t : List (Actor × Ev)) :
    ofActor a t = [] ∨ ∃ mid e after, t = mid ++ (a, e) :: after ∧ ofActor a mid = [] := by
  induction t with
  | nil => exact .inl rfl
  | cons x t ih =>
    obtain ⟨b, f⟩ := x
    by_cases hb : b = a
    · subst hb
      exact .inr ⟨[], f, t, rfl, rfl⟩
    · have hskip : ∀ u : List (Actor × Ev), ofActor a ((b, f) :: u) = ofActor a u := fun u => by simp [ofActor, hb]
      rcases ih with hnil | ⟨mid, e, after, ht, hmid⟩
      · exact .inl (by rw [hskip, hnil])
      · exact .inr ⟨(b, f) :: mid, e, after, by rw [ht]; rfl, by rw [hskip, hmid]⟩

variable (step : σ → Actor → Ev → Option σ)

/-- The state a trace leads to, when every event of it can happen. -/
def replay : σ → List (Actor × Ev) → Option σ
  | s, []          => some s
  | s, (a, e) :: t => (step s a e).bind fun s' => replay s' t

/-- A trace of the programs that the shared state has gone along with. -/
structure Execution (prog : Actor → Prog ε Ev Unit) (s₀ : σ) (t : List (Actor × Ev)) (s : σ) : Prop where
  replays : replay step s₀ t = some s
  runs : ∀ a, ∃ o, (prog a).Runs (ofActor a t) o

/-- Every event of the trace meets a condition on the histories and the state it happens in. -/
def Throughout (C : (Actor → List Ev) → σ → Actor → Ev → Prop) (s₀ : σ) (t : List (Actor × Ev)) : Prop :=
  ∀ before a e after s, t = before ++ (a, e) :: after → replay step s₀ before = some s → C (historiesOf before) s a e

variable {step}

omit [DecidableEq Actor] in
theorem replay_append (t u : List (Actor × Ev)) (s : σ) :
    replay step s (t ++ u) = (replay step s t).bind fun s' => replay step s' u := by
  induction t generalizing s with
  | nil => rfl
  | cons x t ih =>
    obtain ⟨a, e⟩ := x
    rw [List.cons_append, replay, replay]
    cases hs : step s a e with
    | none => rfl
    | some s' => exact ih s'

omit [DecidableEq Actor] in
theorem replay_concat {t : List (Actor × Ev)} {a : Actor} {e : Ev} {s₀ s : σ} :
    replay step s₀ (t ++ [(a, e)]) = some s ↔ ∃ s₁, replay step s₀ t = some s₁ ∧ step s₁ a e = some s := by
  rw [replay_append, Option.bind_eq_some_iff]
  simp [replay]

omit [DecidableEq Actor] in
/-- What the events of a part of the trace keep holds of the state each of them happens in. -/
theorem replay_keeps {P : σ → Prop} {t : List (Actor × Ev)} (hkeep : ∀ s a e s', (a, e) ∈ t → P s →
    step s a e = some s' → P s') {s₁ s : σ} (hr : replay step s₁ t = some s) (hs₁ : P s₁) {a : Actor} {e : Ev}
    (hm : (a, e) ∈ t) : ∃ s₂ s₃, P s₂ ∧ step s₂ a e = some s₃ := by
  induction t generalizing s₁ with
  | nil => cases hm
  | cons x t ih =>
    obtain ⟨b, f⟩ := x
    rw [replay, Option.bind_eq_some_iff] at hr
    obtain ⟨s₂, hs, hr⟩ := hr
    rcases List.mem_cons.1 hm with heq | hm
    · cases heq
      exact ⟨s₁, s₂, hs₁, hs⟩
    · exact ih (fun s a e s' he => hkeep s a e s' (List.mem_cons_of_mem _ he)) hr
        (hkeep s₁ b f s₂ List.mem_cons_self hs₁ hs) hm

theorem throughout_of_mem {C : (Actor → List Ev) → σ → Actor → Ev → Prop} {s₀ : σ} {t : List (Actor × Ev)}
    (hC : ∀ a e, (a, e) ∈ t → ∀ H s, C H s a e) : Throughout step C s₀ t := by
  intro before a e after s ht _
  apply hC a e
  rw [ht]
  simp

namespace Execution

variable {prog : Actor → Prog ε Ev Unit} {s₀ s : σ} {t : List (Actor × Ev)}

theorem before {u : List (Actor × Ev)} (hx : Execution step prog s₀ (t ++ u) s) :
    ∃ s₁, Execution step prog s₀ t s₁ ∧ replay step s₁ u = some s := by
  have hr := hx.replays
  rw [replay_append, Option.bind_eq_some_iff] at hr
  obtain ⟨s₁, ht, hu⟩ := hr
  refine ⟨s₁, ⟨ht, fun a => ?_⟩, hu⟩
  obtain ⟨o, ho⟩ := hx.runs a
  rw [ofActor_append] at ho
  exact Prog.runs_of_append ho

theorem before_concat {a : Actor} {e : Ev} (hx : Execution step prog s₀ (t ++ [(a, e)]) s) :
    ∃ s₁, Execution step prog s₀ t s₁ ∧ step s₁ a e = some s := by
  obtain ⟨s₁, hx₁, hu⟩ := hx.before
  refine ⟨s₁, hx₁, ?_⟩
  simpa [replay] using hu

/-- One more event that the program may have and that can happen. -/
theorem extend {a : Actor} {e : Ev} {s' : σ} (hx : Execution step prog s₀ t s) (hs : step s a e = some s')
    (hr : ∃ o, (prog a).Runs (ofActor a t ++ [e]) o) : Execution step prog s₀ (t ++ [(a, e)]) s' := by
  refine ⟨replay_concat.2 ⟨s, hx.replays, hs⟩, fun b => ?_⟩
  rw [ofActor_append]
  by_cases hb : b = a
  · subst hb
    simpa using hr
  · have hnil : ofActor b [(a, e)] = [] := by simp [ofActor, Ne.symm hb]
    rw [hnil, List.append_nil]
    exact hx.runs b

variable {R G : Actor → List Ev → Ev → Prop} {Q : Actor → List Ev → Except ε Unit → Prop}
  {C : (Actor → List Ev) → σ → Actor → Ev → Prop} {I : List (Actor × Ev) → σ → Prop}

/-- **The rule**: an invariant that grants what the programs rely on and is kept by what they may then do. -/
theorem invariant (hsafe : ∀ a, (prog a).Safe (R a) (G a) (Q a) []) (hinit : I [] s₀)
    (hrely : ∀ t s a e s', I t s → C (historiesOf t) s a e → step s a e = some s' → R a (historiesOf t a) e)
    (hstep : ∀ t s a e s', I t s → C (historiesOf t) s a e → G a (historiesOf t a) e → step s a e = some s' →
      I (t ++ [(a, e)]) s')
    (hx : Execution step prog s₀ t s) (hC : Throughout step C s₀ t) :
    I t s ∧ ∀ a, Admits (R a) [] (ofActor a t) := by
  induction t using List.reverseRecOn generalizing s with
  | nil =>
    have hs : s₀ = s := Option.some.inj hx.replays
    rw [← hs]
    exact ⟨hinit, fun _ => trivial⟩
  | append_singleton t x ih =>
    obtain ⟨a, e⟩ := x
    obtain ⟨s₁, hx₁, hs⟩ := hx.before_concat
    have hC₁ : Throughout step C s₀ t := fun before b f after s' ht => hC before b f (after ++ [(a, e)]) s' (by simp [ht])
    obtain ⟨hI, hR⟩ := ih hx₁ hC₁
    have hc : C (historiesOf t) s₁ a e := hC t a e [] s₁ rfl hx₁.replays
    have hRa : R a (historiesOf t a) e := hrely _ _ _ _ _ hI hc hs
    have hR' : ∀ b, Admits (R b) [] (ofActor b (t ++ [(a, e)])) := by
      intro b
      rw [ofActor_append, Prog.admits_append]
      refine ⟨hR b, ?_⟩
      by_cases hb : b = a
      · subst hb
        rw [ofActor_cons_self, List.append_nil]
        exact ⟨hRa, trivial⟩
      · simp [ofActor, Ne.symm hb, Admits]
    obtain ⟨o, ho⟩ := hx.runs a
    have hGa : G a (historiesOf t a) e := discipline_at ((hsafe a).admits ho (hR' a)) rfl
    exact ⟨hstep _ _ _ _ _ hI hc hGa hs, hR'⟩

/-- At every event of the trace the invariant holds before it, and its actor keeps to its discipline. -/
theorem invariant_at (hsafe : ∀ a, (prog a).Safe (R a) (G a) (Q a) []) (hinit : I [] s₀)
    (hrely : ∀ t s a e s', I t s → C (historiesOf t) s a e → step s a e = some s' → R a (historiesOf t a) e)
    (hstep : ∀ t s a e s', I t s → C (historiesOf t) s a e → G a (historiesOf t a) e → step s a e = some s' →
      I (t ++ [(a, e)]) s')
    (hx : Execution step prog s₀ t s) (hC : Throughout step C s₀ t) {before after : List (Actor × Ev)} {a : Actor}
    {e : Ev} (ht : t = before ++ (a, e) :: after) :
    ∃ s₁ s₂, I before s₁ ∧ step s₁ a e = some s₂ ∧ G a (historiesOf before a) e := by
  have hR := (invariant hsafe hinit hrely hstep hx hC).2
  obtain ⟨o, ho⟩ := hx.runs a
  have hG : G a (historiesOf before a) e := discipline_at ((hsafe a).admits ho (hR a)) ht
  subst ht
  obtain ⟨s₁, hx₁, hr⟩ := hx.before
  have hC₁ : Throughout step C s₀ before := fun b c f d s' hb => hC b c f (d ++ (a, e) :: after) s' (by simp [hb])
  rw [replay, Option.bind_eq_some_iff] at hr
  obtain ⟨s₂, hs, -⟩ := hr
  exact ⟨s₁, s₂, (invariant hsafe hinit hrely hstep hx₁ hC₁).1, hs, hG⟩

/-- What holds at some moment and is kept by every event the programs may have holds from then on. -/
theorem invariant_from {before after : List (Actor × Ev)} (hx : Execution step prog s₀ (before ++ after) s)
    (hG : ∀ a, Admits (G a) [] (ofActor a (before ++ after)))
    (hinit : ∀ s₁, replay step s₀ before = some s₁ → I before s₁)
    (hstep : ∀ t s a e s', I t s → G a (historiesOf t a) e → step s a e = some s' → I (t ++ [(a, e)]) s') :
    I (before ++ after) s := by
  induction after using List.reverseRecOn generalizing s with
  | nil =>
    rw [List.append_nil] at hx ⊢
    exact hinit s hx.replays
  | append_singleton after x ih =>
    obtain ⟨a, e⟩ := x
    rw [← List.append_assoc] at hx hG ⊢
    obtain ⟨s₁, hx₁, hs⟩ := hx.before_concat
    have hG₁ : ∀ b, Admits (G b) [] (ofActor b (before ++ after)) := by
      intro b
      have hb := hG b
      rw [ofActor_append, Prog.admits_append] at hb
      exact hb.1
    exact hstep _ _ _ _ _ (ih hx₁ hG₁) (discipline_at (hG a) rfl) hs

end Execution
end Graftcode
