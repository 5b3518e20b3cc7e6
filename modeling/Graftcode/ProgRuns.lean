import Mathlib.Data.List.Basic
import Graftcode.Interleaving
/-!
# ProgRuns — what a run is made of

A run to the end of one program after another is a run of each; one of a loop over a list is a run of the body for each
element.  A program seen under a larger outside has the runs it had, with their events seen so.
-/
namespace Graftcode
namespace Prog

variable {ε Ev Ev' α β γ : Type}

theorem runs_bind_done {f : α → Prog ε Ev β} {b : β} : ∀ {p : Prog ε Ev α} {t : List Ev},
    (p.bind f).Runs t (.done b) ↔ ∃ t₁ t₂ a, t = t₁ ++ t₂ ∧ p.Runs t₁ (.done a) ∧ (f a).Runs t₂ (.done b)
  | pure a, t => by
    constructor
    · exact fun h => ⟨[], t, a, rfl, ⟨rfl, rfl⟩, h⟩
    · rintro ⟨t₁, t₂, a', rfl, ⟨rfl, ha⟩, h⟩
      cases ha
      exact h
  | throw e, t => by
    constructor
    · exact fun h => nomatch h.2
    · rintro ⟨t₁, t₂, a', rfl, ⟨-, ha⟩, -⟩
      cases ha
  | cut, t => by
    constructor
    · exact fun h => nomatch h.2
    · rintro ⟨t₁, t₂, a', rfl, ⟨-, ha⟩, -⟩
      cases ha
  | ask ev k, t => by
    constructor
    · rintro (⟨-, ho⟩ | ⟨x, u, rfl, hr⟩)
      · cases ho
      · obtain ⟨t₁, t₂, a, rfl, hp, hf⟩ := (runs_bind_done (p := k x)).1 hr
        exact ⟨ev x :: t₁, t₂, a, rfl, runs_ask.2 ⟨x, rfl, hp⟩, hf⟩
    · rintro ⟨t₁, t₂, a, rfl, hp, hf⟩
      exact Runs.bind hf hp

theorem runs_emit_done {A : Type} {ev : A → Ev} {t : List Ev} {a : A} :
    (emit ev : Prog ε Ev A).Runs t (.done a) ↔ t = [ev a] := by
  constructor
  · rintro (⟨-, ho⟩ | ⟨x, u, rfl, rfl, ho⟩)
    · cases ho
    · cases ho
      rfl
  · rintro rfl
    exact runs_ask.2 ⟨a, rfl, rfl, rfl⟩

theorem runs_call_done {A : Type} {ev : Except ε A → Ev} {t : List Ev} {a : A} :
    (call ev : Prog ε Ev A).Runs t (.done a) ↔ t = [ev (.ok a)] := by
  constructor
  · intro h
    obtain ⟨t₁, t₂, r, rfl, hemit, hr⟩ := runs_bind_done.1 h
    obtain rfl := runs_emit_done.1 hemit
    cases r with
    | error e => cases hr.2
    | ok a' =>
      obtain ⟨rfl, ha⟩ := hr
      cases ha
      rfl
  · rintro rfl
    exact runs_ask.2 ⟨.ok a, rfl, rfl, rfl⟩

/-- A loop that never breaks, run to its end, is one run of the body after another: `events x a` is what the body leaves
for `x` when the outside answers `a`. -/
theorem runs_forEach_done {A : Type} {body : γ → Prog ε Ev Unit} {events : γ → A → List Ev}
    (hbody : ∀ x u, (body x).Runs u (.done ()) ↔ ∃ a, u = events x a) : ∀ {xs : List γ} {t : List Ev},
    (forEach (fun x => (body x).bind fun _ => pure true) xs).Runs t (.done ()) ↔
      ∃ answers : List A, answers.length = xs.length ∧ t = (List.zipWith events xs answers).flatten
  | [], t => by
    constructor
    · exact fun h => ⟨[], rfl, h.1⟩
    · rintro ⟨answers, -, rfl⟩
      exact ⟨rfl, rfl⟩
  | x :: xs, t => by
    rw [forEach]
    constructor
    · intro h
      obtain ⟨t₁, t₂, go, rfl, hone, hrest⟩ := runs_bind_done.1 h
      obtain ⟨u₁, u₂, a, rfl, hx, hpure⟩ := runs_bind_done.1 hone
      obtain ⟨rfl, hgo⟩ := hpure
      cases hgo
      obtain ⟨answer, rfl⟩ := (hbody x u₁).1 hx
      obtain ⟨answers, hlength, rfl⟩ := (runs_forEach_done hbody).1 hrest
      exact ⟨answer :: answers, congrArg (· + 1) hlength, by simp⟩
    · rintro ⟨answers, hlength, rfl⟩
      cases answers with
      | nil => cases hlength
      | cons answer answers =>
        have hone : ((body x).bind fun _ => Prog.pure true).Runs (events x answer) (.done true) :=
          runs_bind_done.2 ⟨_, [], (), (List.append_nil _).symm, (hbody x _).2 ⟨answer, rfl⟩, rfl, rfl⟩
        have hrest : (forEach (fun x => (body x).bind fun _ => Prog.pure true) xs).Runs
            (List.zipWith events xs answers).flatten (.done ()) :=
          (runs_forEach_done hbody).2 ⟨answers, Nat.succ.inj hlength, rfl⟩
        exact runs_bind_done.2 ⟨_, _, true, rfl, hone, hrest⟩

/-- The runs under a larger outside. -/
theorem runs_under {f : Ev → Ev'} : ∀ {p : Prog ε Ev α} {t : List Ev'} {o : Outcome ε α},
    (p.under f).Runs t o ↔ ∃ u, t = u.map f ∧ p.Runs u o
  | pure a, t, o => ⟨fun ⟨ht, ho⟩ => ⟨[], ht, rfl, ho⟩, fun ⟨_, ht, hu, ho⟩ => ⟨by rw [ht, hu]; rfl, ho⟩⟩
  | throw e, t, o => ⟨fun ⟨ht, ho⟩ => ⟨[], ht, rfl, ho⟩, fun ⟨_, ht, hu, ho⟩ => ⟨by rw [ht, hu]; rfl, ho⟩⟩
  | cut, t, o => ⟨fun ⟨ht, ho⟩ => ⟨[], ht, rfl, ho⟩, fun ⟨_, ht, hu, ho⟩ => ⟨by rw [ht, hu]; rfl, ho⟩⟩
  | ask ev k, t, o => by
    constructor
    · rintro (⟨rfl, rfl⟩ | ⟨a, t', rfl, hr⟩)
      · exact ⟨[], rfl, .inl ⟨rfl, rfl⟩⟩
      · obtain ⟨u, rfl, hk⟩ := runs_under.1 hr
        exact ⟨ev a :: u, rfl, runs_ask.2 ⟨a, rfl, hk⟩⟩
    · rintro ⟨u, rfl, hr⟩
      rcases hr with ⟨rfl, rfl⟩ | ⟨a, u', rfl, hk⟩
      · exact runs_ask_cut _ _
      · exact runs_ask.2 ⟨a, rfl, runs_under.2 ⟨u', rfl, hk⟩⟩

end Prog

section Under

variable {ε Actor Ev Ev' α : Type} [DecidableEq Actor] {f : Ev → Ev'} {p : Prog ε Ev α} {a : Actor}
  {t before after : List (Actor × Ev')} {o : Outcome ε α}

/-- All events of an actor are events of its program. -/
theorem event_of_under (hr : (p.under f).Runs (ofActor a t) o) {e' : Ev'} (hm : (a, e') ∈ t) : ∃ e, e' = f e := by
  obtain ⟨u, hu, -⟩ := Prog.runs_under.1 hr
  rw [← mem_ofActor, hu, List.mem_map] at hm
  obtain ⟨e, -, rfl⟩ := hm
  exact ⟨e, rfl⟩

/-- An event of the trace satisfies the discipline of its actor's program, at the actor's own history. -/
theorem discipline_under (hf : Function.Injective f) {G : List Ev → Ev → Prop} {Q : List Ev → Except ε α → Prop}
    (hp : p.Safe (fun _ _ => True) G Q []) (hr : (p.under f).Runs (ofActor a t) o) {e : Ev}
    (ht : t = before ++ (a, f e) :: after) :
    ∃ h, G h e ∧ ofActor a before = h.reverse.map f ∧ ∀ x, x ∈ h ↔ (a, f x) ∈ before := by
  obtain ⟨u, hu, hru⟩ := Prog.runs_under.1 hr
  have hsplit : u.map f = ofActor a before ++ f e :: ofActor a after := by
    rw [← hu, ht]
    simp
  obtain ⟨u₁, rest, rfl, hbefore, hrest⟩ := List.map_eq_append_iff.1 hsplit
  obtain ⟨x, u₂, rfl, hx, -⟩ := List.map_eq_cons_iff.1 hrest
  obtain rfl := hf hx
  have hG := (Prog.admits_iff G _ []).1 (hp.admits hru (Prog.admits_true _ _)) u₁ x u₂ rfl
  rw [List.append_nil] at hG
  refine ⟨u₁.reverse, hG, by rw [List.reverse_reverse, hbefore], fun y => ?_⟩
  rw [List.mem_reverse, ← mem_ofActor, ← hbefore, List.mem_map_of_injective hf]

end Under

end Graftcode
