import Graftcode.Prog
/-!
# Tracks — programs that an automaton goes along with

An automaton takes the events of a program one by one, and is stuck where it has no next state.  The outside answers what
is `allowed` in its state.  `Prog.Tracks` is the logic: from a state the automaton takes every allowed event the
program may have, and is in `Q` where it ends.  `Tracks.follows` is its soundness.
-/
namespace Graftcode

variable {S ε Ev Ev' α β σ A : Type}

/-- As long as the events are allowed the automaton takes them. -/
def Follows (next : S → Ev → Option S) (allowed : S → Ev → Prop) : S → List Ev → Prop
  | _, []     => True
  | s, e :: t => allowed s e → ∃ s', next s e = some s' ∧ Follows next allowed s' t

theorem follows_map {next : S → Ev → Option S} {allowed : S → Ev → Prop} (f : Ev' → Ev) : ∀ {t : List Ev'} {s : S},
    Follows next allowed s (t.map f) ↔ Follows (fun s e => next s (f e)) (fun s e => allowed s (f e)) s t
  | [], _     => Iff.rfl
  | _ :: _, _ => imp_congr_right fun _ => exists_congr fun _ => and_congr_right fun _ => follows_map f

namespace Prog

variable (next : S → Ev → Option S) (allowed : S → Ev → Prop)

def Tracks : Prog ε Ev α → (S → Except ε α → Prop) → S → Prop
  | pure a, Q, s   => Q s (.ok a)
  | throw e, Q, s  => Q s (.error e)
  | cut, _, _      => True
  | ask ev k, Q, s => ∀ a, allowed s (ev a) → ∃ s', next s (ev a) = some s' ∧ (k a).Tracks Q s'

variable {next allowed} {Q Q' : S → Except ε α → Prop} {s : S}

theorem Tracks.follows {o : Outcome ε α} : ∀ {p : Prog ε Ev α} {s : S} {t : List Ev},
    p.Tracks next allowed Q s → p.Runs t o → Follows next allowed s t
  | pure _, _, _, _, hr   => by
    rw [hr.1]
    trivial
  | throw _, _, _, _, hr  => by
    rw [hr.1]
    trivial
  | cut, _, _, _, hr      => by
    rw [hr.1]
    trivial
  | ask ev k, s, t, H, hr => by
    rcases hr with ⟨rfl, -⟩ | ⟨a, t', rfl, hk⟩
    · trivial
    · intro hp
      obtain ⟨s', hs, hrest⟩ := H a hp
      exact ⟨s', hs, hrest.follows hk⟩

theorem Tracks.mono (hQ : ∀ s r, Q s r → Q' s r) : ∀ {p : Prog ε Ev α} {s : S},
    p.Tracks next allowed Q s → p.Tracks next allowed Q' s
  | pure _, _, H   => hQ _ _ H
  | throw _, _, H  => hQ _ _ H
  | cut, _, _      => trivial
  | ask _ k, _, H  => fun a hp => by
    obtain ⟨s', hs, hrest⟩ := H a hp
    exact ⟨s', hs, hrest.mono hQ⟩

/-- What a first part ends in when `f` runs after it. -/
def tracksThen (next : S → Ev → Option S) (allowed : S → Ev → Prop) (f : α → Prog ε Ev β)
    (Q : S → Except ε β → Prop) : S → Except ε α → Prop
  | s, .ok a    => (f a).Tracks next allowed Q s
  | s, .error e => Q s (.error e)

theorem tracks_bind' (f : α → Prog ε Ev β) (Q : S → Except ε β → Prop) : ∀ (p : Prog ε Ev α) (s : S),
    (p.bind f).Tracks next allowed Q s ↔ p.Tracks next allowed (tracksThen next allowed f Q) s
  | pure _, _   => Iff.rfl
  | throw _, _  => Iff.rfl
  | cut, _      => Iff.rfl
  | ask _ k, _  => forall_congr' fun a => imp_congr_right fun _ =>
      exists_congr fun s' => and_congr_right fun _ => tracks_bind' f Q (k a) s'

theorem tracks_bind (f : α → Prog ε Ev β) (Q : S → Except ε β → Prop) (p : Prog ε Ev α) (s : S) :
    (p >>= f).Tracks next allowed Q s ↔ p.Tracks next allowed (tracksThen next allowed f Q) s :=
  tracks_bind' f Q p s

/-- Of what is thrown nothing is asked. -/
def Ends (Q : S → α → Prop) : S → Except ε α → Prop
  | s, .ok a    => Q s a
  | _, .error _ => True

theorem Tracks.bind {P : S → α → Prop} {f : α → Prog ε Ev β} {Q : S → β → Prop} {p : Prog ε Ev α}
    (hp : p.Tracks next allowed (Ends P) s) (hf : ∀ s a, P s a → (f a).Tracks next allowed (Ends Q) s) :
    (p >>= f).Tracks next allowed (Ends Q) s :=
  (tracks_bind f _ p s).2 (hp.mono fun s r hr => by
    cases r with
    | ok a    => exact hf s a hr
    | error e => trivial)

theorem tracks_emit {ev : A → Ev} {Q : S → A → Prop}
    (h : ∀ a, allowed s (ev a) → ∃ s', next s (ev a) = some s' ∧ Q s' a) :
    (emit ev : Prog ε Ev A).Tracks next allowed (Ends Q) s := h

theorem tracks_emit_bind {ev : A → Ev} {f : A → Prog ε Ev β} {Q : S → β → Prop}
    (h : ∀ a, allowed s (ev a) → ∃ s', next s (ev a) = some s' ∧ (f a).Tracks next allowed (Ends Q) s') :
    (emit ev >>= f).Tracks next allowed (Ends Q) s := h

theorem tracks_call_bind {ev : Except ε A → Ev} {f : A → Prog ε Ev β} {Q : S → β → Prop}
    (h : ∀ r, allowed s (ev r) → ∃ s', next s (ev r) = some s' ∧
      ∀ a, r = .ok a → (f a).Tracks next allowed (Ends Q) s') :
    (call ev >>= f).Tracks next allowed (Ends Q) s := by
  refine (tracks_bind f _ _ s).2 fun r hp => ?_
  obtain ⟨s', hs, hf⟩ := h r hp
  refine ⟨s', hs, ?_⟩
  cases r with
  | ok a    => exact hf a rfl
  | error e => trivial

/-- The loop rule: what holds of the loop's state and of the automaton's before a turn. -/
theorem tracks_iterate {body : σ → Prog ε Ev (σ ⊕ β)} {Q : S → β → Prop} (I : σ → S → Prop)
    (hbody : ∀ x s, I x s → (body x).Tracks next allowed (Ends fun s' r => Sum.elim (fun x' => I x' s') (Q s') r) s) :
    ∀ (n : Nat) (x : σ) (s : S), I x s → (iterate body n x).Tracks next allowed (Ends Q) s
  | 0, _, _, _     => trivial
  | n + 1, x, s, hI => by
    refine (tracks_bind' _ _ _ s).2 ((hbody x s hI).mono fun s' r hr => ?_)
    cases r with
    | error e => trivial
    | ok r    =>
      cases r with
      | inl x' => exact tracks_iterate I hbody n x' s' hr
      | inr b  => exact hr

theorem tracks_under (f : Ev' → Ev) : ∀ (p : Prog ε Ev' α) (s : S), (p.under f).Tracks next allowed Q s ↔
    p.Tracks (fun s e => next s (f e)) (fun s e => allowed s (f e)) Q s
  | pure _, _   => Iff.rfl
  | throw _, _  => Iff.rfl
  | cut, _      => Iff.rfl
  | ask _ k, _  => forall_congr' fun a => imp_congr_right fun _ =>
      exists_congr fun s' => and_congr_right fun _ => tracks_under f (k a) s'

end Prog
end Graftcode
