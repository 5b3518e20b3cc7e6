import Mathlib.Algebra.BigOperators.Group.List.Basic
import Mathlib.Algebra.Order.Monoid.Canonical.Defs
import Mathlib.Algebra.GroupWithZero.Nat
import Graftcode.Prog
/-!
# Pace — what a program spends between two looks at a flag

A loop that polls a flag goes on when the flag lets it, and every event since then costs something.  `Costs` bounds what
has been spent at any moment of a program, construct by construct; a program that is within the bound spends no more
than that once the flag lets it go on no longer (`Costs.sum_le`).  A cost is an element of an ordered monoid, so several
things can be counted at once.
-/
namespace Graftcode

/-- Which events are looks at the flag that let the program go on, and what an event costs. -/
structure Pace (Ev M : Type) where
  go : Ev → Bool
  cost : Ev → M

namespace Pace

variable {Ev Ev' M ε α β γ σ A : Type}

/-- The pace of a part of the program's world. -/
def comap (f : Ev → Ev') (p : Pace Ev' M) : Pace Ev M where
  go e := p.go (f e)
  cost e := p.cost (f e)

variable [AddCommMonoid M]

/-- The pace of a larger world, of which only a part counts. -/
def through (f : Ev' → Option Ev) (p : Pace Ev M) : Pace Ev' M where
  go e := (f e).any p.go
  cost e := (f e).elim 0 p.cost

@[simp] theorem go_through (f : Ev' → Option Ev) (p : Pace Ev M) (e : Ev') : (p.through f).go e = (f e).any p.go := rfl

@[simp] theorem cost_through (f : Ev' → Option Ev) (p : Pace Ev M) (e : Ev') :
    (p.through f).cost e = (f e).elim 0 p.cost := rfl

/-- What has been spent after the event, when `c` had been before. -/
def after (p : Pace Ev M) (c : M) (e : Ev) : M := if p.go e then 0 else p.cost e + c

variable {p : Pace Ev M}

theorem after_go (c : M) {e : Ev} (h : p.go e = true) : p.after c e = 0 := if_pos h

theorem after_of_not_go (c : M) {e : Ev} (h : p.go e = false) : p.after c e = p.cost e + c := by
  rw [after, h]
  rfl

/-- From a moment on at which no look at the flag lets the program go on, costs add up. -/
theorem foldl_after_of_not_go : ∀ {u : List Ev} (c : M), (∀ e ∈ u, p.go e = false) →
    u.foldl p.after c = (u.map p.cost).sum + c
  | [], c, _     => (zero_add c).symm
  | e :: u, c, h => by
    rw [List.foldl_cons, after_of_not_go _ (h e List.mem_cons_self),
      foldl_after_of_not_go _ fun e' he' => h e' (List.mem_cons_of_mem _ he'), List.map_cons, List.sum_cons,
      add_left_comm, add_assoc]

theorem comap_through {f : Ev' → Option Ev} {g : Ev → Ev'} (hfg : ∀ e, f (g e) = some e) :
    (p.through f).comap g = p := by
  obtain ⟨go, cost⟩ := p
  simp only [comap, through, hfg, Option.any_some, Option.elim_some]

theorem sum_through {f : Ev' → Option Ev} : ∀ u : List Ev',
    (u.map (p.through f).cost).sum = ((u.filterMap f).map p.cost).sum
  | []     => rfl
  | e :: u => by
    rw [List.map_cons, List.sum_cons, sum_through u, cost_through]
    cases he : f e with
    | none => rw [List.filterMap_cons_none he, Option.elim_none, zero_add]
    | some e' => rw [List.filterMap_cons_some he, Option.elim_some, List.map_cons, List.sum_cons]

variable [PartialOrder M]

/-- A program that begins with `c` spent never has more than `N` spent, and ends with at most `c'`. -/
def Costs (p : Pace Ev M) (N : M) : Prog ε Ev α → M → M → Prop
  | .pure _, c, c'   => c ≤ c'
  | .throw _, c, c'  => c ≤ c'
  | .cut, _, _       => True
  | .ask ev k, c, c' => ∀ a, p.after c (ev a) ≤ N ∧ Costs p N (k a) (p.after c (ev a)) c'

variable {N c d c' : M}

theorem costs_pure (a : α) (h : c ≤ c') : p.Costs N (Prog.pure a : Prog ε Ev α) c c' := h

theorem costs_throw (e : ε) (h : c ≤ c') : p.Costs N (Prog.throw e : Prog ε Ev α) c c' := h

theorem costs_ofExcept {r : Except ε α} (h : c ≤ c') : p.Costs N (Prog.ofExcept r : Prog ε Ev α) c c' := by
  cases r <;> exact h

theorem costs_emit {ev : A → Ev} (hstay : ∀ a, p.go (ev a) = false) (hcost : ∀ a, p.cost (ev a) + c ≤ c')
    (hN : c' ≤ N) : p.Costs N (Prog.emit ev : Prog ε Ev A) c c' := by
  intro a
  rw [after_of_not_go _ (hstay a)]
  exact ⟨(hcost a).trans hN, costs_pure a (hcost a)⟩

/-- An event of the larger world that does not count. -/
theorem costs_unseen {f : Ev' → Option Ev} {ev : A → Ev'} (hf : ∀ a, f (ev a) = none) (hN : c ≤ N) :
    (p.through f).Costs N (Prog.emit ev : Prog ε Ev' A) c c := by
  apply costs_emit _ _ hN
  · intro a
    rw [go_through, hf, Option.any_none]
  · intro a
    rw [cost_through, hf, Option.elim_none, zero_add]

theorem costs_under {f : Ev → Ev'} {p : Pace Ev' M} {q : Prog ε Ev α} : ∀ {c : M},
    (p.comap f).Costs N q c c' → p.Costs N (q.under f) c c' := by
  induction q with
  | pure a => exact id
  | throw e => exact id
  | cut => exact fun _ => trivial
  | ask ev k ih => exact fun H a => ⟨(H a).1, ih a (H a).2⟩

theorem costs_under_through {f : Ev' → Option Ev} {g : Ev → Ev'} (hfg : ∀ e, f (g e) = some e) {q : Prog ε Ev α}
    (H : p.Costs N q c c') : (p.through f).Costs N (q.under g) c c' := by
  apply costs_under
  rwa [comap_through hfg]

/-- A program that neither looks at the flag nor spends anything. -/
theorem costs_of_keeps {q : Prog ε Ev α} : ∀ {c : M} {h : List Ev}, c ≤ N →
    Prog.Keeps (fun _ _ => True) (fun _ e => p.go e = false ∧ p.cost e = 0) q h → p.Costs N q c c := by
  induction q with
  | pure a => exact fun _ _ => le_rfl
  | throw e => exact fun _ _ => le_rfl
  | cut => exact fun _ _ => trivial
  | ask ev k ih =>
    intro c h hc hq a
    obtain ⟨⟨hgo, hcost⟩, hk⟩ := hq a trivial
    rw [after_of_not_go _ hgo, hcost, zero_add]
    exact ⟨hc, ih a hc hk⟩

/-- A look at the flag: after one that does not let the program go on, nothing but `stop` is left. -/
theorem costs_look {ev : A → Ev} {k : A → Prog ε Ev α} (hzero : 0 ≤ N)
    (hgo : ∀ a, p.go (ev a) = true → p.Costs N (k a) 0 c')
    (hstop : ∀ a, p.go (ev a) = false → p.cost (ev a) + c ≤ N ∧ p.Costs N (k a) (p.cost (ev a) + c) c') :
    p.Costs N ((Prog.emit ev).bind k) c c' := by
  intro a
  cases ha : p.go (ev a) with
  | true =>
    rw [after_go _ ha]
    exact ⟨hzero, hgo a ha⟩
  | false =>
    rw [after_of_not_go _ ha]
    exact hstop a ha

theorem Costs.trans (h : c' ≤ d) {q : Prog ε Ev α} : ∀ {c : M}, p.Costs N q c c' → p.Costs N q c d := by
  induction q with
  | pure a => exact fun H => le_trans H h
  | throw e => exact fun H => le_trans H h
  | cut => exact fun _ => trivial
  | ask ev k ih => exact fun H a => ⟨(H a).1, ih a (H a).2⟩

variable [IsOrderedAddMonoid M]

theorem after_mono (h : c ≤ d) (e : Ev) : p.after c e ≤ p.after d e := by
  cases hgo : p.go e with
  | true => rw [after_go _ hgo, after_go _ hgo]
  | false =>
    rw [after_of_not_go _ hgo, after_of_not_go _ hgo]
    gcongr

/-- A program that may begin with more spent may begin with less. -/
theorem Costs.of_le {q : Prog ε Ev α} : ∀ {c d : M}, c ≤ d → p.Costs N q d c' → p.Costs N q c c' := by
  induction q with
  | pure a => exact fun h H => le_trans h H
  | throw e => exact fun h H => le_trans h H
  | cut => exact fun _ _ => trivial
  | ask ev k ih => exact fun h H a => ⟨(after_mono h _).trans (H a).1, ih a (after_mono h _) (H a).2⟩

/-! ## The constructs -/

theorem Costs.bind {f : α → Prog ε Ev β} (h : d ≤ c') (hf : ∀ a, p.Costs N (f a) d c') {q : Prog ε Ev α} :
    ∀ {c : M}, p.Costs N q c d → p.Costs N (q.bind f) c c' := by
  induction q with
  | pure a => exact fun H => (hf a).of_le H
  | throw e => exact fun H => le_trans H h
  | cut => exact fun _ => trivial
  | ask ev k ih => exact fun H a => ⟨(H a).1, ih a (H a).2⟩

theorem Costs.tryCatch {f : ε → Prog ε Ev α} (h : d ≤ c') (hf : ∀ e, p.Costs N (f e) d c') {q : Prog ε Ev α} :
    ∀ {c : M}, p.Costs N q c d → p.Costs N (q.tryCatch f) c c' := by
  induction q with
  | pure a => exact fun H => le_trans H h
  | throw e => exact fun H => (hf e).of_le H
  | cut => exact fun _ => trivial
  | ask ev k ih => exact fun H a => ⟨(H a).1, ih a (H a).2⟩

theorem Costs.attempt {caught : ε → Bool} {q : Prog ε Ev α} (H : p.Costs N q c c') :
    p.Costs N (Prog.attempt caught q) c c' := by
  refine Costs.tryCatch le_rfl (fun e => ?_) (Costs.bind le_rfl (fun a => costs_pure _ le_rfl) H)
  cases caught e with
  | true => exact costs_pure none le_rfl
  | false => exact costs_throw e le_rfl

theorem costs_call {ev : Except ε A → Ev} (hstay : ∀ a, p.go (ev a) = false) (hcost : ∀ a, p.cost (ev a) + c ≤ c')
    (hN : c' ≤ N) : p.Costs N (Prog.call ev : Prog ε Ev A) c c' :=
  Costs.bind le_rfl (fun _ => costs_ofExcept le_rfl) (costs_emit hstay hcost hN)

/-- A loop whose turns leave what has been spent as they found it. -/
theorem costs_iterate {body : σ → Prog ε Ev (σ ⊕ β)} (hbody : ∀ s, p.Costs N (body s) c c) :
    ∀ (n : Nat) (s : σ), p.Costs N (Prog.iterate body n s) c c
  | 0, _     => trivial
  | n + 1, s => by
    refine Costs.bind le_rfl (fun r => ?_) (hbody s)
    cases r with
    | inl s' => exact costs_iterate hbody n s'
    | inr b => exact costs_pure b le_rfl

/-- A loop that looks at the flag at the head of every turn: `c` bounds what a turn has spent at its end. -/
theorem costs_while {ev : A → Ev} {k : σ → A → Prog ε Ev (σ ⊕ β)} (hzero : 0 ≤ c) (hc : c ≤ c') (hN : c' ≤ N)
    (hgo : ∀ s a, p.go (ev a) = true → p.Costs N (k s a) 0 c)
    (hstop : ∀ s a, p.go (ev a) = false → p.cost (ev a) + c ≤ c' ∧ ∃ b, k s a = .pure (.inr b)) :
    ∀ (n : Nat) (s : σ), p.Costs N (Prog.iterate (fun s => (Prog.emit ev).bind (k s)) n s) c c'
  | 0, _     => trivial
  | n + 1, s => by
    rw [Prog.iterate, Prog.bind_assoc]
    refine costs_look (hzero.trans (hc.trans hN)) (fun a ha => Costs.bind hc (fun r => ?_) (hgo s a ha)) fun a ha => ?_
    · cases r with
      | inl s' => exact costs_while hzero hc hN hgo hstop n s'
      | inr b => exact costs_pure b hc
    · obtain ⟨hle, b, hb⟩ := hstop s a ha
      rw [hb]
      exact ⟨hle.trans hN, costs_pure b hle⟩

/-- The same for a loop over a list. -/
theorem costs_forEach {ev : A → Ev} {k : γ → A → Prog ε Ev Bool} (hzero : 0 ≤ c) (hc : c ≤ c') (hN : c' ≤ N)
    (hgo : ∀ x a, p.go (ev a) = true → p.Costs N (k x a) 0 c)
    (hstop : ∀ x a, p.go (ev a) = false → p.cost (ev a) + c ≤ c' ∧ k x a = .pure false) :
    ∀ xs : List γ, p.Costs N (Prog.forEach (fun x => (Prog.emit ev).bind (k x)) xs) c c'
  | []      => costs_pure () hc
  | x :: xs => by
    rw [Prog.forEach, Prog.bind_assoc]
    refine costs_look (hzero.trans (hc.trans hN)) (fun a ha => Costs.bind hc (fun go => ?_) (hgo x a ha)) fun a ha => ?_
    · cases go with
      | true => exact costs_forEach hzero hc hN hgo hstop xs
      | false => exact costs_pure () hc
    · obtain ⟨hle, hb⟩ := hstop x a ha
      rw [hb]
      exact ⟨hle.trans hN, costs_pure () hle⟩

/-! ## The runs -/

omit [IsOrderedAddMonoid M] in
/-- At every moment of a run no more than the bound has been spent. -/
theorem Costs.foldl_le {q : Prog ε Ev α} : ∀ {c : M} {t : List Ev} {o : Outcome ε α}, p.Costs N q c c' → c ≤ N →
    q.Runs t o → t.foldl p.after c ≤ N := by
  induction q with
  | pure a =>
    rintro c t o - hc ⟨rfl, -⟩
    exact hc
  | throw e =>
    rintro c t o - hc ⟨rfl, -⟩
    exact hc
  | cut =>
    rintro c t o - hc ⟨rfl, -⟩
    exact hc
  | ask ev k ih =>
    intro c t o H hc hr
    rcases hr with ⟨rfl, -⟩ | ⟨a, t, rfl, hk⟩
    · exact hc
    · rw [List.foldl_cons]
      exact ih a (H a).2 (H a).1 hk

omit [IsOrderedAddMonoid M] in
/-- **What is left to spend**: from the moment on from which no look at the flag lets it go on, a program spends no more
than its bound, whatever it has done before. -/
theorem Costs.sum_le [CanonicallyOrderedAdd M] {q : Prog ε Ev α} {t u : List Ev} {o : Outcome ε α}
    (H : p.Costs N q 0 c') (hr : q.Runs (t ++ u) o) (hu : ∀ e ∈ u, p.go e = false) : (u.map p.cost).sum ≤ N := by
  have hspent := H.foldl_le (zero_le (a := N)) hr
  rw [List.foldl_append, foldl_after_of_not_go _ hu] at hspent
  exact le_self_add.trans hspent

/-! ## Two things counted at once -/

/-- The events of the one kind, and those of the other. -/
def counting (go operates works : Ev → Bool) : Pace Ev (Nat × Nat) where
  go := go
  cost e := (if operates e then 1 else 0, if works e then 1 else 0)

theorem sum_counting {go operates works : Ev → Bool} : ∀ u : List Ev,
    (u.map (counting go operates works).cost).sum = (u.countP operates, u.countP works)
  | []     => rfl
  | e :: u => by
    rw [List.map_cons, List.sum_cons, sum_counting u, List.countP_cons, List.countP_cons]
    exact Prod.ext (Nat.add_comm _ _) (Nat.add_comm _ _)

end Pace
end Graftcode
