import Mathlib.Data.List.Basic
/-!
# Prog — programs that act on an outside world

A sequential program with exceptions is a tree: it is finished, it has thrown, or it asks the outside for an answer and
goes on with it.  Every question it asked, with the answer it got, is one event, so a run is a list of events.  A run
may be observed only in part (`Outcome.cut`), so what holds of every run holds at every moment of it, and a `while`
loop with fuel, taken over every fuel, stands for the loop.

`Prog.Safe` is the logic: from a history (latest event first) every event the outside may answer with (`R`) is one
the program may have (`G`), and what it ends with satisfies `Q`.  `Safe.admits` and `Safe.post` are its soundness.
-/
namespace Graftcode

/-- A program over events `Ev` with exceptions `ε`; `cut` is where the observation of a loop stops. -/
inductive Prog (ε Ev : Type) (α : Type) : Type 1 where
  | pure (a : α)
  | throw (e : ε)
  | cut
  | ask {A : Type} (ev : A → Ev) (k : A → Prog ε Ev α)

/-- What a run, as far as it was observed, has come to. -/
inductive Outcome (ε α : Type) where
  | done (a : α)
  | threw (e : ε)
  | cut

namespace Prog

variable {ε Ev α β γ σ : Type}

def bind : Prog ε Ev α → (α → Prog ε Ev β) → Prog ε Ev β
  | pure a, f   => f a
  | throw e, _  => throw e
  | cut, _      => cut
  | ask ev k, f => ask ev (fun a => (k a).bind f)

instance : Monad (Prog ε Ev) where
  pure := Prog.pure
  bind := Prog.bind

def emit {A : Type} (ev : A → Ev) : Prog ε Ev A := ask ev pure

/-- `try { p } catch`: the handler rethrows what it does not catch. -/
def tryCatch : Prog ε Ev α → (ε → Prog ε Ev α) → Prog ε Ev α
  | pure a, _   => pure a
  | throw e, f  => f e
  | cut, _      => cut
  | ask ev k, f => ask ev (fun a => (k a).tryCatch f)

/-- `try { p } catch` where the handler does nothing but give up: `none` on a caught exception. -/
def attempt (caught : ε → Bool) (p : Prog ε Ev α) : Prog ε Ev (Option α) :=
  (p.bind fun a => pure (some a)).tryCatch fun e => if caught e then pure none else throw e

/-- `throw` when the answer is an error. -/
def ofExcept : Except ε α → Prog ε Ev α
  | .ok a    => pure a
  | .error e => throw e

def call {A : Type} (ev : Except ε A → Ev) : Prog ε Ev A := (emit ev).bind ofExcept

/-- The program with its events seen as events of a larger outside. -/
def under {Ev' : Type} (f : Ev → Ev') : Prog ε Ev α → Prog ε Ev' α
  | pure a   => pure a
  | throw e  => throw e
  | cut      => cut
  | ask ev k => ask (fun a => f (ev a)) (fun a => (k a).under f)

/-- A loop: the body goes on with a new state or leaves with a result. -/
def iterate (body : σ → Prog ε Ev (σ ⊕ β)) : Nat → σ → Prog ε Ev β
  | 0, _     => cut
  | n + 1, s => (body s).bind (fun r => match r with
      | .inl s' => iterate body n s'
      | .inr b  => pure b)

/-- `for (x : xs)`; the body answers `false` to break. -/
def forEach (body : γ → Prog ε Ev Bool) : List γ → Prog ε Ev Unit
  | []      => pure ()
  | x :: xs => (body x).bind (fun go => if go then forEach body xs else pure ())

/-- The runs of a program: its events in order, and what it has come to. -/
def Runs : Prog ε Ev α → List Ev → Outcome ε α → Prop
  | pure a, t, o   => t = [] ∧ o = .done a
  | throw e, t, o  => t = [] ∧ o = .threw e
  | cut, t, o      => t = [] ∧ o = .cut
  | ask ev k, t, o => (t = [] ∧ o = .cut) ∨ ∃ a t', t = ev a :: t' ∧ (k a).Runs t' o

theorem runs_ask {A : Type} {ev : A → Ev} {k : A → Prog ε Ev α} {e : Ev} {t : List Ev} {o : Outcome ε α} :
    (ask ev k).Runs (e :: t) o ↔ ∃ a, e = ev a ∧ (k a).Runs t o := by
  constructor
  · rintro (⟨hnil, -⟩ | ⟨a, t', heq, hr⟩)
    · cases hnil
    · cases heq
      exact ⟨a, rfl, hr⟩
  · rintro ⟨a, rfl, hr⟩
    exact Or.inr ⟨a, t, rfl, hr⟩

theorem runs_ask_cut {A : Type} (ev : A → Ev) (k : A → Prog ε Ev α) : (ask ev k).Runs [] .cut := Or.inl ⟨rfl, rfl⟩

/-- Every program has a run of which nothing has been observed. -/
theorem runs_nil : ∀ p : Prog ε Ev α, ∃ o, p.Runs [] o
  | pure a   => ⟨.done a, rfl, rfl⟩
  | throw e  => ⟨.threw e, rfl, rfl⟩
  | cut      => ⟨.cut, rfl, rfl⟩
  | ask ev k => ⟨.cut, runs_ask_cut ev k⟩

theorem runs_of_append {u : List Ev} : ∀ {p : Prog ε Ev α} {t : List Ev} {o : Outcome ε α},
    p.Runs (t ++ u) o → ∃ o', p.Runs t o'
  | pure a, t, o, hr  => ⟨o, (List.append_eq_nil_iff.1 hr.1).1, hr.2⟩
  | throw e, t, o, hr => ⟨o, (List.append_eq_nil_iff.1 hr.1).1, hr.2⟩
  | cut, t, o, hr     => ⟨o, (List.append_eq_nil_iff.1 hr.1).1, hr.2⟩
  | ask ev k, [], o, hr     => runs_nil (ask ev k)
  | ask ev k, e :: t, o, hr => by
    obtain ⟨a, rfl, hk⟩ := runs_ask.1 hr
    obtain ⟨o', hr'⟩ := runs_of_append hk
    exact ⟨o', runs_ask.2 ⟨a, rfl, hr'⟩⟩

/-- A run to the end, and one of what comes after it. -/
theorem Runs.bind {f : α → Prog ε Ev β} {a : α} {u : List Ev} {o : Outcome ε β} (hf : (f a).Runs u o) :
    ∀ {p : Prog ε Ev α} {t : List Ev}, p.Runs t (.done a) → (p.bind f).Runs (t ++ u) o
  | pure b, t, hr => by
    obtain ⟨rfl, hb⟩ := hr
    cases hb
    exact hf
  | throw e, t, hr => by cases hr.2
  | cut, t, hr     => by cases hr.2
  | ask ev k, t, hr => by
    rcases hr with ⟨-, ho⟩ | ⟨b, t', rfl, hk⟩
    · cases ho
    · exact runs_ask.2 ⟨b, rfl, Runs.bind hf hk⟩

/-! ## The logic of histories -/

/-- From the history `h` (latest first), every event of `t` satisfies `J` at its own history. -/
def Admits (J : List Ev → Ev → Prop) : List Ev → List Ev → Prop
  | _, []     => True
  | h, e :: t => J h e ∧ Admits J (e :: h) t

theorem admits_iff (J : List Ev → Ev → Prop) : ∀ (t h : List Ev),
    Admits J h t ↔ ∀ pre e post, t = pre ++ e :: post → J (pre.reverse ++ h) e
  | [], h => by simp [Admits]
  | x :: t, h => by
    rw [Admits, admits_iff J t (x :: h)]
    constructor
    · rintro ⟨hx, ht⟩ pre e post hs
      cases pre with
      | nil =>
        simp only [List.nil_append, List.cons.injEq] at hs
        obtain ⟨rfl, rfl⟩ := hs
        exact hx
      | cons p pre =>
        simp only [List.cons_append, List.cons.injEq] at hs
        obtain ⟨rfl, rfl⟩ := hs
        simpa using ht pre e post rfl
    · intro H
      refine ⟨by simpa using H [] x t rfl, fun pre e post hs => ?_⟩
      have := H (x :: pre) e post (by rw [hs]; rfl)
      simpa using this

theorem admits_append (J : List Ev → Ev → Prop) : ∀ (t u h : List Ev),
    Admits J h (t ++ u) ↔ Admits J h t ∧ Admits J (t.reverse ++ h) u
  | [], u, h => by simp [Admits]
  | x :: t, u, h => by
    rw [List.cons_append, Admits, Admits, admits_append J t u (x :: h)]
    simp [and_assoc]

/-- Every event the outside may answer with (`R`) is one the program may have (`G`), and it ends in `Q`. -/
def Safe (R G : List Ev → Ev → Prop) : Prog ε Ev α → (List Ev → Except ε α → Prop) → List Ev → Prop
  | pure a, Q, h   => Q h (.ok a)
  | throw e, Q, h  => Q h (.error e)
  | cut, _, _      => True
  | ask ev k, Q, h => ∀ a, R h (ev a) → G h (ev a) ∧ (k a).Safe R G Q (ev a :: h)

variable {R G : List Ev → Ev → Prop}

-- The rules of the constructs are equations between propositions, with which `simp` computes what is owed.

@[simp] theorem safe_pure (a : α) (Q : List Ev → Except ε α → Prop) (h : List Ev) :
    (Pure.pure a : Prog ε Ev α).Safe R G Q h = Q h (.ok a) := rfl

@[simp] theorem safe_pure' (a : α) (Q : List Ev → Except ε α → Prop) (h : List Ev) :
    (Prog.pure a : Prog ε Ev α).Safe R G Q h = Q h (.ok a) := rfl

@[simp] theorem safe_throw (e : ε) (Q : List Ev → Except ε α → Prop) (h : List Ev) :
    (Prog.throw e : Prog ε Ev α).Safe R G Q h = Q h (.error e) := rfl

@[simp] theorem safe_emit {A : Type} (ev : A → Ev) (Q : List Ev → Except ε A → Prop) (h : List Ev) :
    (emit ev : Prog ε Ev A).Safe R G Q h = ∀ a, R h (ev a) → G h (ev a) ∧ Q (ev a :: h) (.ok a) := rfl

@[simp] theorem safe_ofExcept (r : Except ε α) (Q : List Ev → Except ε α → Prop) (h : List Ev) :
    (ofExcept r : Prog ε Ev α).Safe R G Q h = Q h r := by
  cases r <;> rfl

/-- The postcondition a first part owes when `f` runs after it. -/
def andThen (R G : List Ev → Ev → Prop) (f : α → Prog ε Ev β) (Q : List Ev → Except ε β → Prop) :
    List Ev → Except ε α → Prop
  | h, .ok a    => (f a).Safe R G Q h
  | h, .error e => Q h (.error e)

/-- The postcondition a guarded part owes when `f` catches after it. -/
def orElse (R G : List Ev → Ev → Prop) (f : ε → Prog ε Ev α) (Q : List Ev → Except ε α → Prop) :
    List Ev → Except ε α → Prop
  | h, .ok a    => Q h (.ok a)
  | h, .error e => (f e).Safe R G Q h

@[simp] theorem andThen_ok (f : α → Prog ε Ev β) (Q : List Ev → Except ε β → Prop) (h : List Ev) (a : α) :
    andThen R G f Q h (.ok a) = (f a).Safe R G Q h := rfl

@[simp] theorem andThen_error (f : α → Prog ε Ev β) (Q : List Ev → Except ε β → Prop) (h : List Ev) (e : ε) :
    andThen R G f Q h (.error e) = Q h (.error e) := rfl

@[simp] theorem orElse_ok (f : ε → Prog ε Ev α) (Q : List Ev → Except ε α → Prop) (h : List Ev) (a : α) :
    orElse R G f Q h (.ok a) = Q h (.ok a) := rfl

@[simp] theorem orElse_error (f : ε → Prog ε Ev α) (Q : List Ev → Except ε α → Prop) (h : List Ev) (e : ε) :
    orElse R G f Q h (.error e) = (f e).Safe R G Q h := rfl

theorem safe_bind' (f : α → Prog ε Ev β) (Q : List Ev → Except ε β → Prop) : ∀ (p : Prog ε Ev α) (h : List Ev),
    (p.bind f).Safe R G Q h = p.Safe R G (andThen R G f Q) h
  | pure _, _   => rfl
  | throw _, _  => rfl
  | cut, _      => rfl
  | ask ev k, h => by
    simp only [Prog.bind, Safe, safe_bind' f Q (k _)]

@[simp] theorem safe_bind (p : Prog ε Ev α) (f : α → Prog ε Ev β) (Q : List Ev → Except ε β → Prop) (h : List Ev) :
    (p >>= f).Safe R G Q h = p.Safe R G (andThen R G f Q) h := safe_bind' f Q p h

@[simp] theorem safe_tryCatch (f : ε → Prog ε Ev α) (Q : List Ev → Except ε α → Prop) :
    ∀ (p : Prog ε Ev α) (h : List Ev), (p.tryCatch f).Safe R G Q h = p.Safe R G (orElse R G f Q) h
  | pure _, _   => rfl
  | throw _, _  => rfl
  | cut, _      => rfl
  | ask ev k, h => by
    simp only [Prog.tryCatch, Safe, safe_tryCatch f Q (k _)]

@[simp] theorem safe_call {A : Type} (ev : Except ε A → Ev) (Q : List Ev → Except ε A → Prop) (h : List Ev) :
    (call ev : Prog ε Ev A).Safe R G Q h = ∀ r, R h (ev r) → G h (ev r) ∧ Q (ev r :: h) r := by
  simp only [call, safe_bind', safe_emit, andThen_ok, safe_ofExcept]

theorem Safe.mono {Q Q' : List Ev → Except ε α → Prop} (hQ : ∀ h r, Q h r → Q' h r) :
    ∀ {p : Prog ε Ev α} {h : List Ev}, p.Safe R G Q h → p.Safe R G Q' h
  | pure _, _, H    => hQ _ _ H
  | throw _, _, H   => hQ _ _ H
  | cut, _, _       => trivial
  | ask _ k, _, H => fun a ha => ⟨(H a ha).1, Safe.mono hQ (p := k a) (H a ha).2⟩

theorem Safe.weaken {R' G' : List Ev → Ev → Prop} (hR : ∀ h e, R' h e → R h e) (hG : ∀ h e, G h e → G' h e)
    {Q : List Ev → Except ε α → Prop} :
    ∀ {p : Prog ε Ev α} {h : List Ev}, p.Safe R G Q h → p.Safe R' G' Q h
  | pure _, _, H    => H
  | throw _, _, H   => H
  | cut, _, _       => trivial
  | ask _ k, h, H => fun a ha =>
    ⟨hG h _ (H a (hR h _ ha)).1, Safe.weaken hR hG (p := k a) (H a (hR h _ ha)).2⟩

theorem safe_under_map {Ev' : Type} {R' G' : List Ev' → Ev' → Prop} {Q' : List Ev' → Except ε α → Prop}
    (f : Ev → Ev') (g : List Ev') : ∀ (p : Prog ε Ev α) (h : List Ev),
    (p.under f).Safe R' G' Q' (h.map f ++ g) ↔ p.Safe (fun h e => R' (h.map f ++ g) (f e))
      (fun h e => G' (h.map f ++ g) (f e)) (fun h r => Q' (h.map f ++ g) r) h
  | pure _, _   => Iff.rfl
  | throw _, _  => Iff.rfl
  | cut, _      => Iff.rfl
  | ask ev k, h => forall_congr' fun a => imp_congr_right fun _ =>
      and_congr_right fun _ => safe_under_map f g (k a) (ev a :: h)

/-- What a program says of the larger outside it says of its own events, after whatever came before. -/
theorem safe_under {Ev' : Type} {R' G' : List Ev' → Ev' → Prop} {Q' : List Ev' → Except ε α → Prop} (f : Ev → Ev')
    (p : Prog ε Ev α) (g : List Ev') : (p.under f).Safe R' G' Q' g ↔ p.Safe (fun h e => R' (h.map f ++ g) (f e))
      (fun h e => G' (h.map f ++ g) (f e)) (fun h r => Q' (h.map f ++ g) r) [] := safe_under_map f g p []

theorem Safe.and {G' : List Ev → Ev → Prop} {Q Q' : List Ev → Except ε α → Prop} :
    ∀ {p : Prog ε Ev α} {h : List Ev}, p.Safe R G Q h → p.Safe R G' Q' h →
      p.Safe R (fun h e => G h e ∧ G' h e) (fun h r => Q h r ∧ Q' h r) h
  | pure _, _, H, H'   => ⟨H, H'⟩
  | throw _, _, H, H'  => ⟨H, H'⟩
  | cut, _, _, _       => trivial
  | ask _ k, _, H, H' => fun a ha =>
    ⟨⟨(H a ha).1, (H' a ha).1⟩, Safe.and (p := k a) (H a ha).2 (H' a ha).2⟩

def attempted (caught : ε → Bool) (Q : List Ev → Except ε (Option α) → Prop) : List Ev → Except ε α → Prop
  | h, .ok a    => Q h (.ok (some a))
  | h, .error e => if caught e then Q h (.ok none) else Q h (.error e)

@[simp] theorem attempted_ok (caught : ε → Bool) (Q : List Ev → Except ε (Option α) → Prop) (h : List Ev) (a : α) :
    attempted caught Q h (.ok a) = Q h (.ok (some a)) := rfl

@[simp] theorem attempted_error (caught : ε → Bool) (Q : List Ev → Except ε (Option α) → Prop) (h : List Ev) (e : ε) :
    attempted caught Q h (.error e) = (if caught e then Q h (.ok none) else Q h (.error e)) := rfl

@[simp] theorem safe_attempt (caught : ε → Bool) (Q : List Ev → Except ε (Option α) → Prop) (p : Prog ε Ev α)
    (h : List Ev) : (attempt caught p).Safe R G Q h = p.Safe R G (attempted caught Q) h := by
  rw [attempt, safe_tryCatch, safe_bind']
  refine propext ⟨Safe.mono fun h r hr => ?_, Safe.mono fun h r hr => ?_⟩
  all_goals
    cases r with
    | ok a => exact hr
    | error e =>
      simp only [andThen_error, orElse_error, attempted_error] at hr ⊢
      split at hr <;> rename_i hc <;> simpa [hc] using hr

/-- The loop rule: an invariant of the state and the history that the body keeps. -/
theorem safe_iterate {body : σ → Prog ε Ev (σ ⊕ β)} {Q : List Ev → Except ε β → Prop} (I : σ → List Ev → Prop)
    (hbody : ∀ s h, I s h → (body s).Safe R G (fun h' r => match r with
      | .ok (.inl s') => I s' h'
      | .ok (.inr b)  => Q h' (.ok b)
      | .error e      => Q h' (.error e)) h) :
    ∀ (n : Nat) (s : σ) (h : List Ev), I s h → (iterate body n s).Safe R G Q h
  | 0, _, _, _     => trivial
  | n + 1, s, h, hI => by
    rw [iterate, safe_bind']
    refine Safe.mono (fun h' r hr => ?_) (hbody s h hI)
    match r with
    | .ok (.inl s') => exact safe_iterate I hbody n s' h' hr
    | .ok (.inr b)  => exact hr
    | .error e      => exact hr

/-- The rule for a list: an invariant of the history that the body keeps on every element. -/
theorem safe_forEach {body : γ → Prog ε Ev Bool} {Q : List Ev → Except ε Unit → Prop} (I : List Ev → Prop)
    (hdone : ∀ h, I h → Q h (.ok ())) : ∀ (xs : List γ)
    (_ : ∀ x ∈ xs, ∀ h, I h → (body x).Safe R G (fun h' r => match r with
      | .ok _    => I h'
      | .error e => Q h' (.error e)) h) (h : List Ev), I h → (forEach body xs).Safe R G Q h
  | [], _, h, hI         => hdone h hI
  | x :: xs, hbody, h, hI => by
    rw [forEach, safe_bind']
    refine Safe.mono (fun h' r hr => ?_) (hbody x List.mem_cons_self h hI)
    match r with
    | .ok true  =>
      exact safe_forEach I hdone xs (fun y hy => hbody y (List.mem_cons_of_mem _ hy)) h' hr
    | .ok false => exact hdone h' hr
    | .error e  => exact hr

/-- What once held of the history and is never lost still holds at the end. -/
theorem Safe.persist {P : List Ev → Prop} (hP : ∀ h e, P h → P (e :: h)) {Q : List Ev → Except ε α → Prop} :
    ∀ {p : Prog ε Ev α} {h : List Ev}, p.Safe R G Q h → P h → p.Safe R G (fun h' r => P h' ∧ Q h' r) h
  | pure _, _, H, hp   => ⟨hp, H⟩
  | throw _, _, H, hp  => ⟨hp, H⟩
  | cut, _, _, _       => trivial
  | ask ev k, h, H, hp => fun a ha => ⟨(H a ha).1, Safe.persist hP (p := k a) (H a ha).2 (hP h (ev a) hp)⟩

/-- What holds of the history and is kept by every event the program may have still holds at the end. -/
theorem Safe.preserve {P : List Ev → Prop} (hP : ∀ h e, G h e → P h → P (e :: h))
    {Q : List Ev → Except ε α → Prop} :
    ∀ {p : Prog ε Ev α} {h : List Ev}, p.Safe R G Q h → P h → p.Safe R G (fun h' r => P h' ∧ Q h' r) h
  | pure _, _, H, hp   => ⟨hp, H⟩
  | throw _, _, H, hp  => ⟨hp, H⟩
  | cut, _, _, _       => trivial
  | ask ev k, h, H, hp => fun a ha =>
    ⟨(H a ha).1, Safe.preserve hP (p := k a) (H a ha).2 (hP h (ev a) (H a ha).1 hp)⟩

/-- The rule for a list none of whose elements ends it: each leaves behind what is never lost. -/
theorem safe_forEach_each {body : γ → Prog ε Ev Bool} {P : γ → List Ev → Prop}
    (hP : ∀ x h e, P x h → P x (e :: h)) : ∀ (xs : List γ)
    (_ : ∀ x ∈ xs, ∀ h, (body x).Safe R G (fun h' r => ∀ go, r = .ok go → go = true ∧ P x h') h) (h : List Ev),
    (forEach body xs).Safe R G (fun h' r => r = .ok () → ∀ x ∈ xs, P x h') h
  | [], _, _          => fun _ x hx => by cases hx
  | x :: xs, hbody, h => by
    rw [forEach, safe_bind']
    refine Safe.mono (fun h' r hr => ?_) (hbody x List.mem_cons_self h)
    match r with
    | .error e => exact fun he => by cases he
    | .ok go   =>
      obtain ⟨rfl, hx⟩ := hr go rfl
      have hxs := safe_forEach_each hP xs (fun y hy => hbody y (List.mem_cons_of_mem _ hy)) h'
      refine (Safe.persist (hP x) hxs hx).mono fun h'' r' hr' hok y hy => ?_
      rcases List.mem_cons.1 hy with rfl | hy
      · exact hr'.1
      · exact hr'.2 hok y hy

theorem safe_true : ∀ (p : Prog ε Ev α) (h : List Ev), p.Safe R (fun _ _ => True) (fun _ _ => True) h
  | pure _, _   => trivial
  | throw _, _  => trivial
  | cut, _      => trivial
  | ask ev k, h => fun a _ => ⟨trivial, safe_true (k a) (ev a :: h)⟩

/-! ### Programs of which only the events matter -/

/-- Whatever the program ends with, its events are ones it may have. -/
abbrev Keeps (R G : List Ev → Ev → Prop) (p : Prog ε Ev α) (h : List Ev) : Prop := p.Safe R G (fun _ _ => True) h

theorem Safe.keeps_bind {p : Prog ε Ev α} {f : α → Prog ε Ev β} {Q : List Ev → Except ε α → Prop} {h : List Ev}
    (hp : p.Safe R G Q h) (hf : ∀ a h', Q h' (.ok a) → Keeps R G (f a) h') : Keeps R G (p >>= f) h := by
  refine (safe_bind p f _ h).mpr (hp.mono fun h' r hr => ?_)
  cases r with
  | ok a => exact hf a h' hr
  | error e => trivial

theorem keeps_emit {A : Type} {ev : A → Ev} {h : List Ev} (hG : ∀ a, G h (ev a)) :
    Keeps R G (emit ev : Prog ε Ev A) h := (safe_emit ev _ h).mpr fun a _ => ⟨hG a, trivial⟩

theorem keeps_call {A : Type} {ev : Except ε A → Ev} {h : List Ev} (hG : ∀ r, G h (ev r)) :
    Keeps R G (call ev : Prog ε Ev A) h := (safe_call ev _ h).mpr fun r _ => ⟨hG r, trivial⟩

theorem keeps_emit_bind {A : Type} {ev : A → Ev} {f : A → Prog ε Ev β} {h : List Ev} (hG : ∀ a, G h (ev a))
    (hf : ∀ a, Keeps R G (f a) (ev a :: h)) : Keeps R G (emit ev >>= f) h :=
  (safe_bind _ f _ h).mpr ((safe_emit ev _ h).mpr fun a _ => ⟨hG a, hf a⟩)

theorem keeps_call_bind {A : Type} {ev : Except ε A → Ev} {f : A → Prog ε Ev β} {h : List Ev} (hG : ∀ r, G h (ev r))
    (hf : ∀ a, Keeps R G (f a) (ev (.ok a) :: h)) : Keeps R G (call ev >>= f) h := by
  refine (safe_bind _ f _ h).mpr ((safe_call ev _ h).mpr fun r _ => ⟨hG r, ?_⟩)
  cases r with
  | ok a => exact hf a
  | error e => trivial

theorem Safe.keeps_attempt {caught : ε → Bool} {p : Prog ε Ev α} {h : List Ev} (hp : Keeps R G p h) :
    Keeps R G (attempt caught p) h := by
  refine (safe_attempt caught _ p h).mpr (hp.mono fun h' r _ => ?_)
  cases r with
  | ok a => trivial
  | error e =>
    rw [attempted_error]
    split <;> trivial

theorem Safe.keeps_tryCatch {p : Prog ε Ev α} {f : ε → Prog ε Ev α} {h : List Ev} (hp : Keeps R G p h)
    (hf : ∀ e h', Keeps R G (f e) h') : Keeps R G (p.tryCatch f) h := by
  refine (safe_tryCatch f _ p h).mpr (hp.mono fun h' r _ => ?_)
  cases r with
  | ok a => trivial
  | error e => exact hf e h'

theorem keeps_iterate {body : σ → Prog ε Ev (σ ⊕ β)} (hbody : ∀ s h, Keeps R G (body s) h) (n : Nat) (s : σ)
    (h : List Ev) : Keeps R G (iterate body n s) h := by
  refine safe_iterate (fun _ _ => True) (fun s h _ => (hbody s h).mono fun h' r _ => ?_) n s h trivial
  match r with
  | .ok (.inl _) => trivial
  | .ok (.inr _) => trivial
  | .error _ => trivial

theorem keeps_forEach {body : γ → Prog ε Ev Bool} (hbody : ∀ x h, Keeps R G (body x) h) (xs : List γ) (h : List Ev) :
    Keeps R G (forEach body xs) h := by
  refine safe_forEach (fun _ => True) (fun _ _ => trivial) xs (fun x _ h _ => ?_) h trivial
  refine (hbody x h).mono fun h' r _ => ?_
  cases r with
  | ok go => trivial
  | error e => trivial

/-- **Soundness on events**: a run whose answers the outside may give has only events the program may have. -/
theorem Safe.admits {Q : List Ev → Except ε α → Prop} : ∀ {p : Prog ε Ev α} {h t : List Ev} {o : Outcome ε α},
    p.Safe R G Q h → p.Runs t o → Admits R h t → Admits G h t
  | pure _, _, _, _, _, hr, _  => by rw [hr.1]; trivial
  | throw _, _, _, _, _, hr, _ => by rw [hr.1]; trivial
  | cut, _, _, _, _, hr, _     => by rw [hr.1]; trivial
  | ask ev k, h, t, o, H, hr, hR => by
    rcases hr with ⟨rfl, -⟩ | ⟨a, t', rfl, hk⟩
    · trivial
    · obtain ⟨hG, hS⟩ := H a hR.1
      exact ⟨hG, Safe.admits hS hk hR.2⟩

theorem admits_of_mem {J : Ev → Prop} : ∀ {t : List Ev} (h : List Ev), (∀ e ∈ t, J e) → Admits (fun _ e => J e) h t
  | [], _, _      => trivial
  | e :: _, h, hJ =>
    ⟨hJ e List.mem_cons_self, admits_of_mem (e :: h) fun e' he' => hJ e' (List.mem_cons_of_mem _ he')⟩

/-- **Soundness on results**: what such a run ends with satisfies the postcondition at its whole history. -/
theorem Safe.post {Q : List Ev → Except ε α → Prop} : ∀ {p : Prog ε Ev α} {h t : List Ev} {a : α},
    p.Safe R G Q h → p.Runs t (.done a) → Admits R h t → Q (t.reverse ++ h) (.ok a)
  | pure b, h, t, a, H, hr, _ => by
    obtain ⟨rfl, hb⟩ := hr
    cases hb
    exact H
  | throw _, _, _, _, _, hr, _ => by cases hr.2
  | cut, _, _, _, _, hr, _     => by cases hr.2
  | ask ev k, h, t, a, H, hr, hR => by
    rcases hr with ⟨-, hc⟩ | ⟨x, t', rfl, hk⟩
    · cases hc
    · have := Safe.post (H x hR.1).2 hk hR.2
      simpa using this

/-- The same for a run that an exception ends. -/
theorem Safe.post_threw {Q : List Ev → Except ε α → Prop} : ∀ {p : Prog ε Ev α} {h t : List Ev} {e : ε},
    p.Safe R G Q h → p.Runs t (.threw e) → Admits R h t → Q (t.reverse ++ h) (.error e)
  | pure _, _, _, _, _, hr, _ => by cases hr.2
  | throw x, h, t, e, H, hr, _ => by
    obtain ⟨rfl, hx⟩ := hr
    cases hx
    exact H
  | cut, _, _, _, _, hr, _     => by cases hr.2
  | ask ev k, h, t, e, H, hr, hR => by
    rcases hr with ⟨-, hc⟩ | ⟨x, t', rfl, hk⟩
    · cases hc
    · have := Safe.post_threw (H x hR.1).2 hk hR.2
      simpa using this

theorem admits_true : ∀ (t h : List Ev), Admits (fun _ _ => True) h t
  | [], _     => trivial
  | e :: t, h => ⟨trivial, admits_true t (e :: h)⟩

/-- A handler that catches everything and does nothing. -/
theorem Safe.swallow {p : Prog ε Ev Unit} {h : List Ev} (hp : Keeps R G p h) :
    (p.tryCatch fun _ => pure ()).Safe R G (fun _ r => r = .ok ()) h := by
  refine (safe_tryCatch _ _ p h).mpr (hp.mono fun h' r _ => ?_)
  cases r with
  | ok a => rfl
  | error e => rfl

/-! ### Equations -/

theorem bind_assoc (f : α → Prog ε Ev β) (g : β → Prog ε Ev γ) : ∀ p : Prog ε Ev α,
    (p.bind f).bind g = p.bind fun a => (f a).bind g
  | pure _   => rfl
  | throw _  => rfl
  | cut      => rfl
  | ask ev k => congrArg (ask ev) (funext fun a => bind_assoc f g (k a))

theorem iterate_bind_pure {body : σ → Prog ε Ev (σ ⊕ β)} (f : β → γ) : ∀ (n : Nat) (s : σ),
    (iterate body n s).bind (fun b => pure (f b)) = iterate (fun s => (body s).bind fun r => pure (r.map id f)) n s
  | 0, _     => rfl
  | n + 1, s => by
    rw [iterate, iterate, bind_assoc, bind_assoc]
    congr 1
    funext r
    cases r with
    | inl s' => exact iterate_bind_pure f n s'
    | inr b => rfl

theorem under_bind {Ev' : Type} (f : Ev → Ev') (k : α → Prog ε Ev β) : ∀ p : Prog ε Ev α,
    (p.bind k).under f = (p.under f).bind fun a => (k a).under f
  | pure _    => rfl
  | throw _   => rfl
  | cut       => rfl
  | ask ev k' => congrArg (ask fun a => f (ev a)) (funext fun a => under_bind f k (k' a))

theorem under_iterate {Ev' : Type} (f : Ev → Ev') {body : σ → Prog ε Ev (σ ⊕ β)} : ∀ (n : Nat) (s : σ),
    (iterate body n s).under f = iterate (fun s => (body s).under f) n s
  | 0, _     => rfl
  | n + 1, s => by
    rw [iterate, iterate, under_bind]
    congr 1
    funext r
    cases r with
    | inl s' => exact under_iterate f n s'
    | inr b => rfl

theorem Safe.admits_of_keeps {p : Prog ε Ev α} {h t : List Ev} {o : Outcome ε α}
    (hp : Keeps (fun _ _ => True) G p h) (hr : p.Runs t o) : Admits G h t := hp.admits hr (admits_true t h)

/-! ## Programs that end -/

/-- The program ends, and in `Q`, whatever the outside answers: its loops do not run out of fuel. -/
def Returns (R : List Ev → Ev → Prop) : Prog ε Ev α → (List Ev → Except ε α → Prop) → List Ev → Prop
  | pure a, Q, h   => Q h (.ok a)
  | throw e, Q, h  => Q h (.error e)
  | cut, _, _      => False
  | ask ev k, Q, h => ∀ a, R h (ev a) → (k a).Returns R Q (ev a :: h)

/-- After a part that ends in `Q` comes a part that ends. -/
theorem Returns.bind {p : Prog ε Ev α} {f : α → Prog ε Ev β} {Q : List Ev → Except ε α → Prop}
    {Q' : List Ev → Except ε β → Prop} (hok : ∀ h a, Q h (.ok a) → (f a).Returns R Q' h)
    (herror : ∀ h e, Q h (.error e) → Q' h (.error e)) :
    ∀ {h : List Ev}, p.Returns R Q h → (p.bind f).Returns R Q' h := by
  induction p with
  | pure a => exact fun H => hok _ a H
  | throw e => exact fun H => herror _ e H
  | cut => exact fun H => H
  | ask ev k ih => exact fun H a ha => ih a (H a ha)

theorem Returns.tryCatch {p : Prog ε Ev α} {f : ε → Prog ε Ev α} {Q Q' : List Ev → Except ε α → Prop}
    (hok : ∀ h a, Q h (.ok a) → Q' h (.ok a)) (herror : ∀ h e, Q h (.error e) → (f e).Returns R Q' h) :
    ∀ {h : List Ev}, p.Returns R Q h → (p.tryCatch f).Returns R Q' h := by
  induction p with
  | pure a => exact fun H => hok _ a H
  | throw e => exact fun H => herror _ e H
  | cut => exact fun H => H
  | ask ev k ih => exact fun H a ha => ih a (H a ha)

theorem returns_call {A : Type} {ev : Except ε A → Ev} {Q : List Ev → Except ε A → Prop} {h : List Ev}
    (hQ : ∀ r, R h (ev r) → Q (ev r :: h) r) : (call ev : Prog ε Ev A).Returns R Q h := by
  intro r hr
  have := hQ r hr
  cases r with
  | ok a => exact this
  | error e => exact this

/-- A program that ends, ends in what is true of all its runs. -/
theorem Returns.of_safe {Q Q' : List Ev → Except ε α → Prop} :
    ∀ {p : Prog ε Ev α} {h : List Ev}, p.Returns R Q' h → p.Safe R G Q h → p.Returns R Q h
  | pure _, _, _, H   => H
  | throw _, _, _, H  => H
  | cut, _, H, _      => H
  | ask _ k, _, H, H' => fun a ha => Returns.of_safe (p := k a) (H a ha) (H' a ha).2

theorem Returns.of_true {R' : List Ev → Ev → Prop} {Q : List Ev → Except ε α → Prop} :
    ∀ {p : Prog ε Ev α} {h : List Ev}, p.Returns (fun _ _ => True) Q h → p.Returns R' Q h
  | pure _, _, H   => H
  | throw _, _, H  => H
  | cut, _, H      => H
  | ask _ k, _, H => fun a _ => Returns.of_true (p := k a) (H a trivial)

/-- The loop rule: a measure that every further turn makes smaller, and fuel for as many turns. -/
theorem returns_iterate {body : σ → Prog ε Ev (σ ⊕ β)} {Q : List Ev → Except ε β → Prop} (I : σ → List Ev → Prop)
    (μ : σ → List Ev → Nat) (hbody : ∀ s h, I s h → (body s).Returns R (fun h' r => match r with
      | .ok (.inl s') => I s' h' ∧ μ s' h' < μ s h
      | .ok (.inr b)  => Q h' (.ok b)
      | .error e      => Q h' (.error e)) h) :
    ∀ (n : Nat) (s : σ) (h : List Ev), I s h → μ s h < n → (iterate body n s).Returns R Q h
  | 0, _, _, _, hn     => absurd hn (Nat.not_lt_zero _)
  | n + 1, s, h, hI, hn => by
    rw [iterate]
    refine @Returns.bind ε Ev (σ ⊕ β) β R (body s) _ _ Q (fun h' r hr => ?_) (fun h' e he => he) h (hbody s h hI)
    match r with
    | .inl s' => exact returns_iterate I μ hbody n s' h' hr.1 (by have := hr.2; omega)
    | .inr b  => exact hr

end Prog
end Graftcode
