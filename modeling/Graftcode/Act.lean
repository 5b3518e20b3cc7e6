import Mathlib.Data.List.Basic
/-!
# Act — actions that may raise

Actions are `EStateM ε σ`: an exception keeps the state it was raised in.  `Performs` says of an action that it takes a
list of steps in turn, each of which may fail: none of them failing it answers, one failing it raises, and a relation
holds of the state before and after in both cases.
-/
namespace Graftcode
namespace Act

variable {ε σ τ ι α β : Type}

/-- The state an action leaves, whether it returns or raises. -/
def after (x : EStateM ε σ α) (s : σ) : σ :=
  match x s with
  | .ok _ s'    => s'
  | .error _ s' => s'

theorem after_ok {x : EStateM ε σ α} {s s' : σ} {a : α} (h : x s = .ok a s') : after x s = s' := by
  rw [after, h]

theorem after_error {x : EStateM ε σ α} {s s' : σ} {e : ε} (h : x s = .error e s') : after x s = s' := by
  rw [after, h]

theorem after_congr {x : EStateM ε σ α} {y : EStateM ε σ α} {s t : σ} (h : x s = y t) : after x s = after y t := by
  rw [after, after, h]

theorem bind_ok {x : EStateM ε σ α} {f : α → EStateM ε σ β} {s s' : σ} {a : α} (h : x s = .ok a s') :
    (x >>= f) s = f a s' := by
  show EStateM.bind x f s = _
  rw [EStateM.bind, h]

theorem bind_error {x : EStateM ε σ α} {f : α → EStateM ε σ β} {s s' : σ} {e : ε} (h : x s = .error e s') :
    (x >>= f) s = .error e s' := by
  show EStateM.bind x f s = _
  rw [EStateM.bind, h]

/-- The block after `finally` runs on what the first leaves, and is what decides the state. -/
theorem after_tryFinally (x : EStateM ε σ α) (y : EStateM ε σ β) (s : σ) :
    after (tryFinally x y) s = after y (after x s) := by
  simp only [after, tryFinally, Functor.map, tryFinally', EStateM.map]
  cases hx : x s with
  | ok a s'    => cases hy : y s' <;> simp only [hy]
  | error e s' => cases hy : y s' <;> simp only [hy]

theorem tryFinally_ok {x : EStateM ε σ α} {y : EStateM ε σ β} {s s' s'' : σ} {a : α} {b : β} (hx : x s = .ok a s')
    (hy : y s' = .ok b s'') : tryFinally x y s = .ok a s'' := by
  simp only [tryFinally, Functor.map, tryFinally', EStateM.map, hx, hy]

theorem tryFinally_error {x : EStateM ε σ α} {y : EStateM ε σ β} {s s' s'' : σ} {e : ε} {b : β} (hx : x s = .error e s')
    (hy : y s' = .ok b s'') : tryFinally x y s = .error e s'' := by
  simp only [tryFinally, Functor.map, tryFinally', EStateM.map, hx, hy]

/-- An action on the second part of a state. -/
def onSnd (x : EStateM ε σ α) : EStateM ε (τ × σ) α := fun s =>
  match x s.2 with
  | .ok a s'    => .ok a (s.1, s')
  | .error e s' => .error e (s.1, s')

theorem after_onSnd (x : EStateM ε σ α) (s : τ × σ) : after (onSnd x) s = (s.1, after x s.2) := by
  simp only [after, onSnd]
  cases x s.2 <;> rfl

theorem onSnd_ok {x : EStateM ε σ α} {s : τ × σ} {s' : σ} {a : α} (h : x s.2 = .ok a s') :
    onSnd x s = .ok a (s.1, s') := by
  rw [onSnd, h]

theorem onSnd_error {x : EStateM ε σ α} {s : τ × σ} {s' : σ} {e : ε} (h : x s.2 = .error e s') :
    onSnd x s = .error e (s.1, s') := by
  rw [onSnd, h]

/-! ## Steps that may fail -/

/-- The action answers `a` when no step of the list fails, raises when one does, and relates the states by `R`. -/
def Performs (R : σ → σ → Prop) (fails : ι → Prop) (steps : List ι) (x : EStateM ε σ α) (a : α) : Prop :=
  ∀ s, ((∀ i ∈ steps, ¬ fails i) → ∃ s', x s = .ok a s' ∧ R s s') ∧
    ((∃ i ∈ steps, fails i) → ∃ e s', x s = .error e s' ∧ R s s')

variable {R : σ → σ → Prop} {fails : ι → Prop} {steps steps' : List ι} {x : EStateM ε σ α} {a : α}

theorem performs_pure (hR : ∀ s, R s s) (a : α) : Performs R fails [] (pure a : EStateM ε σ α) a :=
  fun s => ⟨fun _ => ⟨s, rfl, hR s⟩, fun ⟨_, h, _⟩ => absurd h List.not_mem_nil⟩

theorem Performs.bind {f : α → EStateM ε σ β} {b : β} (hR : ∀ s t u, R s t → R t u → R s u)
    (hx : Performs R fails steps x a) (hf : Performs R fails steps' (f a) b) :
    Performs R fails (steps ++ steps') (x >>= f) b := by
  intro s
  obtain ⟨calm, raises⟩ := hx s
  constructor
  · intro h
    obtain ⟨s₁, h₁, r₁⟩ := calm fun i hi => h i (List.mem_append_left _ hi)
    obtain ⟨s₂, h₂, r₂⟩ := (hf s₁).1 fun i hi => h i (List.mem_append_right _ hi)
    exact ⟨s₂, by rw [bind_ok h₁, h₂], hR s s₁ s₂ r₁ r₂⟩
  · rintro ⟨i, hi, hfail⟩
    by_cases hany : ∃ i ∈ steps, fails i
    · obtain ⟨e, s₁, h₁, r₁⟩ := raises hany
      exact ⟨e, s₁, bind_error h₁, r₁⟩
    · obtain ⟨s₁, h₁, r₁⟩ := calm fun j hj hf => hany ⟨j, hj, hf⟩
      have hi' : i ∈ steps' := (List.mem_append.1 hi).resolve_left fun h => hany ⟨i, h, hfail⟩
      obtain ⟨e, s₂, h₂, r₂⟩ := (hf s₁).2 ⟨i, hi', hfail⟩
      exact ⟨e, s₂, by rw [bind_ok h₁, h₂], hR s s₁ s₂ r₁ r₂⟩

theorem Performs.ite {c : Prop} [Decidable c] {y : EStateM ε σ α} (hx : Performs R fails steps x a)
    (hy : Performs R fails steps' y a) :
    Performs R fails (if c then steps else steps') (if c then x else y) a := by
  split
  · exact hx
  · exact hy

end Act
end Graftcode
