import Mathlib.Data.List.Basic
import Graftcode.Prog
/-!
# Erasure — programs that do the same but for what is left out

`Erases f p q` says that `p` does what `q` does, once its events are seen through `f` and those that `f` leaves out are
dropped.  Construct by construct; what runs of `p` come to is then what runs of `q` come to (`Erases.runs`).
-/
namespace Graftcode
namespace Prog

variable {ε Ev Ev' α β γ A : Type}

def Erases (f : Ev → Option Ev') : Prog ε Ev α → Prog ε Ev' α → Prop
  | pure a, q   => q = pure a
  | throw e, q  => q = throw e
  | cut, _      => True
  | ask ev k, q => ∀ a, match f (ev a) with
    | none   => Erases f (k a) q
    | some e => ∃ (B : Type) (ev' : B → Ev') (k' : B → Prog ε Ev' α) (b : B),
        q = ask ev' k' ∧ e = ev' b ∧ Erases f (k a) (k' b)

variable {f : Ev → Option Ev'}

/-- **What is left of a run** is a run of the other program, and comes to the same once it ends. -/
theorem Erases.runs : ∀ {p : Prog ε Ev α} {q : Prog ε Ev' α} {t : List Ev} {o : Outcome ε α}, Erases f p q →
    p.Runs t o → ∃ o', q.Runs (t.filterMap f) o' ∧ (o = .cut ∨ o' = o)
  | pure a, q, t, o, h, hr   => by
    obtain ⟨rfl, rfl⟩ := hr
    obtain rfl : q = pure a := h
    exact ⟨.done a, ⟨rfl, rfl⟩, .inr rfl⟩
  | throw e, q, t, o, h, hr  => by
    obtain ⟨rfl, rfl⟩ := hr
    obtain rfl : q = throw e := h
    exact ⟨.threw e, ⟨rfl, rfl⟩, .inr rfl⟩
  | cut, q, t, o, _, hr      => by
    obtain ⟨rfl, rfl⟩ := hr
    obtain ⟨o', ho'⟩ := runs_nil q
    exact ⟨o', ho', .inl rfl⟩
  | ask ev k, q, t, o, h, hr => by
    rcases hr with ⟨rfl, rfl⟩ | ⟨a, t, rfl, hk⟩
    · obtain ⟨o', ho'⟩ := runs_nil q
      exact ⟨o', ho', .inl rfl⟩
    have ha := h a
    cases hf : f (ev a) with
    | none   =>
      rw [hf] at ha
      rw [List.filterMap_cons_none hf]
      exact Erases.runs ha hk
    | some e =>
      rw [hf] at ha
      obtain ⟨B, ev', k', b, rfl, rfl, hkb⟩ := ha
      obtain ⟨o', ho', hsame⟩ := Erases.runs hkb hk
      rw [List.filterMap_cons_some hf]
      exact ⟨o', runs_ask.2 ⟨b, rfl, ho'⟩, hsame⟩

/-- A program is what is left of it under a larger outside. -/
theorem erases_under {g : Ev' → Ev} (hg : ∀ e, f (g e) = some e) : ∀ p : Prog ε Ev' α, Erases f (p.under g) p
  | pure _   => rfl
  | throw _  => rfl
  | cut      => trivial
  | ask ev k => fun a => by
    rw [hg]
    exact ⟨_, ev, k, a, rfl, rfl, erases_under hg (k a)⟩

theorem Erases.bind {k : α → Prog ε Ev β} {k' : α → Prog ε Ev' β} (hk : ∀ a, Erases f (k a) (k' a)) :
    ∀ {p : Prog ε Ev α} {q : Prog ε Ev' α}, Erases f p q → Erases f (p.bind k) (q.bind k')
  | pure a, q, h   => by
    obtain rfl : q = pure a := h
    exact hk a
  | throw e, q, h  => by
    obtain rfl : q = throw e := h
    exact rfl
  | cut, _, _      => trivial
  | ask ev j, q, h => fun a => by
    have ha := h a
    cases hf : f (ev a) with
    | none   =>
      rw [hf] at ha
      exact Erases.bind hk ha
    | some e =>
      rw [hf] at ha
      obtain ⟨B, ev', j', b, rfl, rfl, hjb⟩ := ha
      exact ⟨B, ev', fun b => (j' b).bind k', b, rfl, rfl, Erases.bind hk hjb⟩

theorem Erases.tryCatch {k : ε → Prog ε Ev α} {k' : ε → Prog ε Ev' α} (hk : ∀ e, Erases f (k e) (k' e)) :
    ∀ {p : Prog ε Ev α} {q : Prog ε Ev' α}, Erases f p q → Erases f (p.tryCatch k) (q.tryCatch k')
  | pure a, q, h   => by
    obtain rfl : q = pure a := h
    exact rfl
  | throw e, q, h  => by
    obtain rfl : q = throw e := h
    exact hk e
  | cut, _, _      => trivial
  | ask ev j, q, h => fun a => by
    have ha := h a
    cases hf : f (ev a) with
    | none   =>
      rw [hf] at ha
      exact Erases.tryCatch hk ha
    | some e =>
      rw [hf] at ha
      obtain ⟨B, ev', j', b, rfl, rfl, hjb⟩ := ha
      exact ⟨B, ev', fun b => (j' b).tryCatch k', b, rfl, rfl, Erases.tryCatch hk hjb⟩

theorem erases_pure (a : α) : Erases f (pure a : Prog ε Ev α) (pure a) := rfl

theorem erases_throw (e : ε) : Erases f (throw e : Prog ε Ev α) (throw e) := rfl

theorem erases_ofExcept (r : Except ε α) : Erases f (ofExcept r : Prog ε Ev α) (ofExcept r) := by
  cases r <;> exact rfl

/-- An event that is seen. -/
theorem erases_emit {ev : A → Ev} {ev' : A → Ev'} (hf : ∀ a, f (ev a) = some (ev' a)) :
    Erases f (emit ev : Prog ε Ev A) (emit ev') := by
  intro a
  rw [hf]
  exact ⟨A, ev', pure, a, rfl, rfl, rfl⟩

/-- An event that is left out. -/
theorem erases_silent {ev : A → Ev} (hf : ∀ a, f (ev a) = none) {k : A → Prog ε Ev α} {q : Prog ε Ev' α}
    (hk : ∀ a, Erases f (k a) q) : Erases f ((emit ev).bind k) q := by
  intro a
  rw [hf]
  exact hk a

/-- What is left out at the end, whichever way a program ends. -/
theorem Erases.finally {e₁ e₂ : Ev} (h₁ : f e₁ = none) (h₂ : f e₂ = none) {p : Prog ε Ev α} {q : Prog ε Ev' α}
    (h : Erases f p q) :
    Erases f ((p.tryCatch fun e => (emit fun _ : Unit => e₁).bind fun _ => throw e).bind fun a =>
      (emit fun _ : Unit => e₂).bind fun _ => pure a) q := by
  induction p generalizing q with
  | pure a      =>
    obtain rfl : q = pure a := h
    exact erases_silent (fun _ => h₂) fun _ => rfl
  | throw e     =>
    obtain rfl : q = throw e := h
    exact erases_silent (fun _ => h₁) fun _ => rfl
  | cut         => trivial
  | ask ev k ih =>
    intro a
    have ha := h a
    cases hf : f (ev a) with
    | none   =>
      rw [hf] at ha
      exact ih a ha
    | some e =>
      rw [hf] at ha
      obtain ⟨B, ev', k', b, rfl, rfl, hkb⟩ := ha
      exact ⟨B, ev', k', b, rfl, rfl, ih a hkb⟩

theorem Erases.attempt {p : Prog ε Ev α} {q : Prog ε Ev' α} (h : Erases f p q) (caught : ε → Bool) :
    Erases f (attempt caught p) (attempt caught q) := by
  apply Erases.tryCatch _ (Erases.bind (fun a => erases_pure (some a)) h)
  intro e
  by_cases hc : caught e = true
  · rw [if_pos hc, if_pos hc]
    exact erases_pure none
  · rw [if_neg hc, if_neg hc]
    exact erases_throw e

theorem erases_forEach {body : γ → Prog ε Ev Bool} {body' : γ → Prog ε Ev' Bool}
    (h : ∀ x, Erases f (body x) (body' x)) : ∀ xs : List γ, Erases f (forEach body xs) (forEach body' xs)
  | []      => rfl
  | x :: xs => by
    apply Erases.bind _ (h x)
    intro go
    cases go with
    | true  => exact erases_forEach h xs
    | false => exact rfl

end Prog
end Graftcode
