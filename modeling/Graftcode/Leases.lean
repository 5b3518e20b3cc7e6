import Mathlib
import Graftcode.Executions
/-!
# Leases — objects that programs borrow from a stack of idle ones

A program takes the last idle object, or makes one when there is none, uses it, and gives it back; when it throws, the
object is dropped instead (`lease`).  Only taking and giving back are atomic.  In any execution of programs that keep to
leases (`Leasing`) nobody uses an object that another one has, none is lost, and there are no more of them than there
are programs, but for those that were dropped.
-/
namespace Graftcode
namespace Leases

open Prog (emit)

variable {Use Out Actor ε α : Type}

inductive Event (ε Use Out : Type) where
  -- the last idle object, if there is one
  | popped (r : Option Nat)
  | made (r : Except ε Nat)
  | used (r : Nat) (e : Use)
  | pushed (r : Nat)
  | dropped (r : Nat)
  | outside (e : Out)

def acquire : Prog ε (Event ε Use Out) Nat := do
  let r ← emit Event.popped
  r.elim (Prog.call Event.made) pure

def lease (body : Prog ε Use α) : Prog ε (Event ε Use Out) α := do
  let r ← acquire
  let a ← (body.under (Event.used r)).tryCatch fun e => do
    emit fun _ : Unit => Event.dropped r
    Prog.throw e
  emit fun _ : Unit => Event.pushed r
  pure a

/-! ## One program -/

/-- Where a program stands with its lease. -/
inductive Phase where
  | out
  | making
  | holding (r : Nat)
  deriving DecidableEq

def Phase.next (p : Phase) : Event ε Use Out → Phase
  | .popped r  => r.elim .making .holding
  | .made r    => r.toOption.elim .out .holding
  | .used _ _  => p
  | .pushed _  => .out
  | .dropped _ => .out
  | .outside _ => p

/-- The phase a history has come to, latest event first. -/
def phaseOf (h : List (Event ε Use Out)) : Phase := h.foldr (fun e p => p.next e) .out

/-- Leases do not nest; only what is held is used, and only what is held is given back or dropped. -/
def Leased (h : List (Event ε Use Out)) : Event ε Use Out → Prop
  | .popped _  => phaseOf h = .out
  | .made _    => phaseOf h = .making
  | .used r _  => phaseOf h = .holding r
  | .pushed r  => phaseOf h = .holding r
  | .dropped r => phaseOf h = .holding r
  | .outside _ => phaseOf h = .out

theorem phaseOf_cons (e : Event ε Use Out) (h : List (Event ε Use Out)) : phaseOf (e :: h) = (phaseOf h).next e := rfl

theorem phaseOf_used {r : Nat} {g : List (Event ε Use Out)} : ∀ es : List Use,
    phaseOf (es.map (Event.used r) ++ g) = phaseOf g
  | []      => rfl
  | _ :: es => phaseOf_used es

theorem phaseOf_outside {g : List (Event ε Use Out)} : ∀ es : List Out,
    phaseOf (es.map Event.outside ++ g) = phaseOf g
  | []      => rfl
  | _ :: es => phaseOf_outside es

/-- The program keeps to leases, and has none at the end. -/
def Leasing (p : Prog ε (Event ε Use Out) α) : Prop :=
  ∀ h, phaseOf h = .out → p.Safe (fun _ _ => True) Leased (fun h' _ => phaseOf h' = .out) h

section Program

variable {β γ : Type}

theorem leasing_pure (a : α) : Leasing (.pure a : Prog ε (Event ε Use Out) α) := fun _ hout => hout

theorem leasing_throw (e : ε) : Leasing (.throw e : Prog ε (Event ε Use Out) α) := fun _ hout => hout

theorem leasing_ofExcept (r : Except ε α) : Leasing (Prog.ofExcept r : Prog ε (Event ε Use Out) α) := by
  cases r with
  | ok a    => exact leasing_pure a
  | error e => exact leasing_throw e

/-- Whatever is done under a lease, it is over at the end. -/
theorem leasing_lease (body : Prog ε Use α) : Leasing (lease body : Prog ε (Event ε Use Out) α) := by
  have hbody : ∀ {r : Nat} {g : List (Event ε Use Out)}, phaseOf g = .holding r →
      (do
        let a ← (body.under (Event.used r)).tryCatch fun e => do
          emit fun _ : Unit => Event.dropped r
          Prog.throw e
        emit fun _ : Unit => Event.pushed r
        pure a : Prog ε (Event ε Use Out) α).Safe (fun _ _ => True) Leased (fun h' _ => phaseOf h' = .out) g := by
    intro r g hg
    rw [Prog.safe_bind, Prog.safe_tryCatch, Prog.safe_under]
    apply ((Prog.safe_true body []).weaken (fun _ _ _ => trivial) fun es e _ => ?_).mono
    · intro es r' _
      have hheld := (phaseOf_used (r := r) es).trans hg
      cases r' with
      | ok a    => exact fun _ _ => ⟨hheld, rfl⟩
      | error e => exact fun _ _ => ⟨hheld, rfl⟩
    · exact (phaseOf_used (r := r) es).trans hg
  intro h hout
  unfold lease acquire
  rw [Prog.safe_bind, Prog.safe_bind, Prog.safe_emit]
  intro r _
  refine ⟨hout, ?_⟩
  rw [Prog.andThen_ok]
  cases r with
  | some r => exact hbody rfl
  | none   =>
    show (Prog.call Event.made).Safe (fun _ _ => True) Leased _ _
    rw [Prog.safe_call]
    intro r _
    refine ⟨rfl, ?_⟩
    cases r with
    | ok r    => exact hbody rfl
    | error e => rfl

/-- What is done outside of a lease. -/
theorem leasing_outside (p : Prog ε Out α) : Leasing (p.under Event.outside : Prog ε (Event ε Use Out) α) := by
  intro h hout
  rw [Prog.safe_under]
  apply ((Prog.safe_true p []).weaken (fun _ _ _ => trivial) fun es e _ => ?_).mono
  · exact fun es _ _ => (phaseOf_outside es).trans hout
  · exact (phaseOf_outside es).trans hout

theorem leasing_emit {A : Type} (ev : A → Out) :
    Leasing (emit (Event.outside ∘ ev) : Prog ε (Event ε Use Out) A) :=
  leasing_outside (emit ev)

theorem Leasing.bind {p : Prog ε (Event ε Use Out) α} {k : α → Prog ε (Event ε Use Out) β} (hp : Leasing p)
    (hk : ∀ a, Leasing (k a)) : Leasing (p.bind k) := by
  intro h hout
  rw [Prog.safe_bind']
  apply (hp h hout).mono
  intro h' r hout'
  cases r with
  | ok a    => exact hk a h' hout'
  | error e => exact hout'

theorem Leasing.tryCatch {p : Prog ε (Event ε Use Out) α} {k : ε → Prog ε (Event ε Use Out) α} (hp : Leasing p)
    (hk : ∀ e, Leasing (k e)) : Leasing (p.tryCatch k) := by
  intro h hout
  rw [Prog.safe_tryCatch]
  apply (hp h hout).mono
  intro h' r hout'
  cases r with
  | ok a    => exact hout'
  | error e => exact hk e h' hout'

theorem Leasing.attempt {p : Prog ε (Event ε Use Out) α} (hp : Leasing p) (caught : ε → Bool) :
    Leasing (Prog.attempt caught p) := by
  apply Leasing.tryCatch (hp.bind fun a => leasing_pure (some a))
  intro e
  by_cases hc : caught e = true
  · rw [if_pos hc]
    exact leasing_pure none
  · rw [if_neg hc]
    exact leasing_throw e

theorem leasing_forEach {body : γ → Prog ε (Event ε Use Out) Bool} (hbody : ∀ x, Leasing (body x)) :
    ∀ xs : List γ, Leasing (Prog.forEach body xs)
  | []      => leasing_pure ()
  | x :: xs => by
    apply (hbody x).bind
    intro go
    cases go with
    | true  => exact leasing_forEach hbody xs
    | false => exact leasing_pure ()

end Program

/-! ## The programs together -/

/-- The idle objects, last one first, and how many have been made. -/
structure State where
  idle : List Nat := []
  made : Nat := 0

def step (s : State) (_ : Actor) : Event ε Use Out → Option State
  | .popped r     => if s.idle.head? = r then some { s with idle := s.idle.tail } else none
  | .made (.ok r) => if r = s.made then some { s with made := s.made + 1 } else none
  | .pushed r     => some { s with idle := r :: s.idle }
  | _             => some s

variable [DecidableEq Actor]

def phases (t : List (Actor × Event ε Use Out)) (a : Actor) : Phase := phaseOf (historiesOf t a)

/-- The objects that a program has. -/
def Phase.objects : Phase → Multiset Nat
  | .holding r => {r}
  | _          => 0

def Phase.weight : Phase → Nat
  | .out => 0
  | _    => 1

@[simp] theorem objects_out : Phase.out.objects = 0 := rfl
@[simp] theorem objects_making : Phase.making.objects = 0 := rfl
@[simp] theorem objects_holding (r : Nat) : (Phase.holding r).objects = {r} := rfl
@[simp] theorem weight_out : Phase.out.weight = 0 := rfl
@[simp] theorem weight_making : Phase.making.weight = 1 := rfl
@[simp] theorem weight_holding (r : Nat) : (Phase.holding r).weight = 1 := rfl

def Event.dropped? : Event ε Use Out → Option Nat
  | .dropped r => some r
  | _          => none

omit [DecidableEq Actor] in
/-- The objects that have been dropped. -/
def gone (t : List (Actor × Event ε Use Out)) : List Nat := t.filterMap fun x => x.2.dropped?

/-- What has been made is idle, with one program, or gone; and those that are idle and the programs that have a lease
are no more than there are programs. -/
structure Lent [Fintype Actor] (t : List (Actor × Event ε Use Out)) (s : State) : Prop where
  places : (s.idle : Multiset Nat) + ∑ a, (phases t a).objects + (gone t : Multiset Nat) = Multiset.range s.made
  bounded : s.idle.length + ∑ a, (phases t a).weight ≤ Fintype.card Actor

section Step

variable {t : List (Actor × Event ε Use Out)} {s s' : State} {a b : Actor} {e : Event ε Use Out} {r : Nat}

theorem phases_self : phases (t ++ [(a, e)]) a = (phases t a).next e := by
  rw [phases, historiesOf_concat, Function.update_self, phaseOf_cons]
  rfl

theorem phases_other (hb : b ≠ a) : phases (t ++ [(a, e)]) b = phases t b := by
  rw [phases, historiesOf_concat, Function.update_of_ne hb]
  rfl

omit [DecidableEq Actor] in
theorem gone_concat : gone (t ++ [(a, e)]) = gone t ++ e.dropped?.toList := by
  rw [gone, List.filterMap_append]
  cases h : e.dropped? <;> simp [gone, h]

theorem weight_le_one (p : Phase) : p.weight ≤ 1 := by cases p <;> simp

theorem card_objects_le (p : Phase) : Multiset.card p.objects ≤ p.weight := by cases p <;> simp

variable [Fintype Actor]

/-- An event changes the sum over all programs by what it changes for its own. -/
theorem sum_concat {M : Type} [AddCommMonoid M] (f : Phase → M) :
    ∑ b, f (phases (t ++ [(a, e)]) b) + f (phases t a) = ∑ b, f (phases t b) + f ((phases t a).next e) := by
  have hrest : ∑ b ∈ Finset.univ.erase a, f (phases (t ++ [(a, e)]) b) = ∑ b ∈ Finset.univ.erase a, f (phases t b) :=
    Finset.sum_congr rfl fun b hb => by rw [phases_other (Finset.ne_of_mem_erase hb)]
  rw [← Finset.add_sum_erase _ _ (Finset.mem_univ a), ← Finset.add_sum_erase _ _ (Finset.mem_univ a), hrest,
    phases_self]
  abel

theorem sum_weight_le (t : List (Actor × Event ε Use Out)) : ∑ b, (phases t b).weight ≤ Fintype.card Actor := by
  calc ∑ b, (phases t b).weight ≤ ∑ _b : Actor, 1 := Finset.sum_le_sum fun b _ => weight_le_one _
    _ = Fintype.card Actor := by simp

theorem lent_nil : Lent ([] : List (Actor × Event ε Use Out)) {} where
  places := by simp [phases, phaseOf, Phase.objects, gone]
  bounded := by simp [phases, phaseOf, Phase.weight]

/-- What an event does for its own program, it does for all together. -/
theorem Lent.change (h : Lent t s)
    (hplaces : (s'.idle : Multiset Nat) + ((phases t a).next e).objects + (e.dropped?.toList : Multiset Nat) +
      Multiset.range s.made = (s.idle : Multiset Nat) + (phases t a).objects + Multiset.range s'.made)
    (hbounded : s'.idle.length + ((phases t a).next e).weight ≤ s.idle.length + (phases t a).weight ∨ s'.idle = []) :
    Lent (t ++ [(a, e)]) s' where
  places := by
    have hobjects := sum_concat (t := t) (a := a) (e := e) Phase.objects
    apply add_right_cancel (b := (phases t a).objects + Multiset.range s.made)
    rw [gone_concat, ← Multiset.coe_add]
    calc
      (s'.idle : Multiset Nat) + ∑ b, (phases (t ++ [(a, e)]) b).objects +
            ((gone t : Multiset Nat) + (e.dropped?.toList : Multiset Nat)) +
          ((phases t a).objects + Multiset.range s.made) =
          (s'.idle : Multiset Nat) + (e.dropped?.toList : Multiset Nat) + (gone t : Multiset Nat) +
            (∑ b, (phases (t ++ [(a, e)]) b).objects + (phases t a).objects) + Multiset.range s.made := by abel
      _ = (s'.idle : Multiset Nat) + ((phases t a).next e).objects + (e.dropped?.toList : Multiset Nat) +
            Multiset.range s.made + (∑ b, (phases t b).objects + (gone t : Multiset Nat)) := by
          rw [hobjects]
          abel
      _ = Multiset.range s'.made + ((phases t a).objects +
            ((s.idle : Multiset Nat) + ∑ b, (phases t b).objects + (gone t : Multiset Nat))) := by
          rw [hplaces]
          abel
      _ = Multiset.range s'.made + ((phases t a).objects + Multiset.range s.made) := by rw [h.places]
  bounded := by
    rcases hbounded with hless | hnil
    · have hweight := sum_concat (t := t) (a := a) (e := e) Phase.weight
      have hbefore := h.bounded
      omega
    · rw [hnil, List.length_nil, Nat.zero_add]
      exact sum_weight_le _

theorem Lent.step (h : Lent t s) (hG : Leased (historiesOf t a) e) (hs : Leases.step s a e = some s') :
    Lent (t ++ [(a, e)]) s' := by
  cases e with
  | popped r  =>
    have hphase : phases t a = .out := hG
    rw [Leases.step, Option.ite_none_right_eq_some, Option.some.injEq] at hs
    obtain ⟨hhead, rfl⟩ := hs
    cases r with
    | none   =>
      have hidle : s.idle = [] := List.head?_eq_none_iff.1 hhead
      apply h.change
      · simp [hphase, hidle, Phase.next, Event.dropped?]
      · exact .inr (by simp [hidle])
    | some r =>
      obtain ⟨rest, hidle⟩ := List.head?_eq_some_iff.1 hhead
      apply h.change
      · simp only [hphase, hidle, Phase.next, Option.elim_some, objects_holding, objects_out, Event.dropped?,
          Option.toList_none, Multiset.coe_nil, List.tail_cons, ← Multiset.cons_coe, ← Multiset.singleton_add]
        abel
      · exact .inl (by simp [hphase, hidle, Phase.next])
  | made r    =>
    have hphase : phases t a = .making := hG
    cases r with
    | ok r    =>
      rw [Leases.step, Option.ite_none_right_eq_some, Option.some.injEq] at hs
      obtain ⟨rfl, rfl⟩ := hs
      apply h.change
      · simp only [hphase, Phase.next, Except.toOption, Option.elim_some, objects_holding, objects_making,
          Event.dropped?, Option.toList_none, Multiset.coe_nil, Multiset.range_succ, ← Multiset.singleton_add]
        abel
      · exact .inl (by simp [hphase, Phase.next, Except.toOption])
    | error x =>
      cases hs
      apply h.change
      · simp [hphase, Phase.next, Except.toOption, Event.dropped?]
      · exact .inl (by simp [hphase, Phase.next, Except.toOption])
  | used r x  =>
    cases hs
    apply h.change
    · simp [Phase.next, Event.dropped?]
    · exact .inl le_rfl
  | pushed r  =>
    have hphase : phases t a = .holding r := hG
    cases hs
    apply h.change
    · simp only [hphase, Phase.next, objects_holding, objects_out, Event.dropped?, Option.toList_none,
        Multiset.coe_nil, ← Multiset.cons_coe, ← Multiset.singleton_add]
      abel
    · exact .inl (by simp [hphase, Phase.next])
  | dropped r =>
    have hphase : phases t a = .holding r := hG
    cases hs
    apply h.change
    · simp [hphase, Phase.next, Event.dropped?]
    · exact .inl (by simp [hphase, Phase.next])
  | outside x =>
    cases hs
    apply h.change
    · simp [Phase.next, Event.dropped?]
    · exact .inl le_rfl

/-! ## What follows -/

theorem Lent.nodup (h : Lent t s) :
    ((s.idle : Multiset Nat) + ∑ a, (phases t a).objects + (gone t : Multiset Nat)).Nodup := by
  rw [h.places]
  exact Multiset.nodup_range _

theorem mem_objects (hr : phases t a = .holding r) : r ∈ ∑ a, (phases t a).objects := by
  apply Multiset.mem_of_le (Finset.single_le_sum (fun b _ => Multiset.zero_le _) (Finset.mem_univ a))
  rw [hr]
  exact Multiset.mem_singleton_self r

/-- Nobody else has it. -/
theorem Lent.alone (h : Lent t s) (ha : phases t a = .holding r) (hb : phases t b = .holding r) : a = b := by
  by_contra hne
  have hnodup := (Multiset.nodup_add.1 (Multiset.nodup_add.1 h.nodup).1).2.1
  rw [← Finset.add_sum_erase _ _ (Finset.mem_univ a)] at hnodup
  have hrest : r ∈ ∑ c ∈ Finset.univ.erase a, (phases t c).objects := by
    apply Multiset.mem_of_le (Finset.single_le_sum (fun c _ => Multiset.zero_le _)
      (Finset.mem_erase.2 ⟨Ne.symm hne, Finset.mem_univ b⟩))
    rw [hb]
    exact Multiset.mem_singleton_self r
  have hown : r ∈ (phases t a).objects := by
    rw [ha]
    exact Multiset.mem_singleton_self r
  exact Multiset.disjoint_left.1 (Multiset.nodup_add.1 hnodup).2.2 hown hrest

theorem Lent.not_gone (h : Lent t s) (ha : phases t a = .holding r) : r ∉ gone t := by
  intro hgone
  have hdisjoint := (Multiset.nodup_add.1 h.nodup).2.2
  exact Multiset.disjoint_left.1 hdisjoint (Multiset.mem_add.2 (.inr (mem_objects ha))) (Multiset.mem_coe.2 hgone)

/-- There are no more objects than programs, but for those that were dropped. -/
theorem Lent.made_le (h : Lent t s) : s.made ≤ Fintype.card Actor + (gone t).length := by
  have hcard := congrArg Multiset.card h.places
  have hle : ∑ a, Multiset.card (phases t a).objects ≤ ∑ a, (phases t a).weight :=
    Finset.sum_le_sum fun a _ => card_objects_le _
  have hbounded := h.bounded
  simp only [Multiset.card_add, Multiset.coe_card, Multiset.card_sum, Multiset.card_range] at hcard
  omega

/-- Once nobody has a lease, what has been made is idle or gone. -/
theorem Lent.all_back (h : Lent t s) (hout : ∀ a, phases t a = .out) : s.idle.length + (gone t).length = s.made := by
  have hcard := congrArg Multiset.card h.places
  simpa [hout] using hcard

end Step

/-! ## Executions -/

section Runs

variable {t before mid after : List (Actor × Event ε Use Out)} {a b : Actor} {r : Nat}

/-- Who had an object and has it no more gave it back, or dropped it. -/
theorem given_up (ha : phases before a = .holding r)
    (hG : ∀ m e m', mid = m ++ (a, e) :: m' → Leased (historiesOf (before ++ m) a) e)
    (hend : phases (before ++ mid) a ≠ .holding r) : (a, .pushed r) ∈ mid ∨ (a, .dropped r) ∈ mid := by
  induction mid using List.reverseRecOn with
  | nil => exact absurd (by rwa [List.append_nil]) hend
  | append_singleton m x ih =>
    obtain ⟨c, e⟩ := x
    by_cases hm : phases (before ++ m) a = .holding r
    · have hc : a = c := by
        by_contra hne
        rw [← List.append_assoc, phases_other hne] at hend
        exact hend hm
      subst hc
      have hlast := hG m e [] rfl
      rw [← List.append_assoc, phases_self] at hend
      cases e with
      | popped r'  => cases hm.symm.trans hlast
      | made r'    => cases hm.symm.trans hlast
      | used r' x  => exact absurd hm hend
      | pushed r'  =>
        cases hm.symm.trans hlast
        exact .inl (by simp)
      | dropped r' =>
        cases hm.symm.trans hlast
        exact .inr (by simp)
      | outside x  => exact absurd hm hend
    · rcases ih (fun m₁ f m₂ hm₁ => hG m₁ f (m₂ ++ [(c, e)]) (by simp [hm₁])) hm with h | h
      · exact .inl (List.mem_append_left _ h)
      · exact .inr (List.mem_append_left _ h)

variable [Fintype Actor] {prog : Actor → Prog ε (Event ε Use Out) Unit} {s : State}

theorem execution_lent (hprog : ∀ a, Leasing (prog a)) (hx : Execution step prog {} t s) : Lent t s :=
  (hx.invariant (C := fun _ _ _ _ => True) (fun a => hprog a [] rfl) lent_nil (fun _ _ _ _ _ _ _ _ => trivial)
    (fun _ _ _ _ _ h _ hG hs => h.step hG hs) (throughout_of_mem fun _ _ _ _ _ => trivial)).1

/-- At every event of an execution. -/
theorem execution_leased (hprog : ∀ a, Leasing (prog a)) (hx : Execution step prog {} t s) {e : Event ε Use Out}
    (ht : t = before ++ (a, e) :: after) : (∃ s₁, Lent before s₁) ∧ Leased (historiesOf before a) e := by
  obtain ⟨s₁, _, h, _, hG⟩ := hx.invariant_at (C := fun _ _ _ _ => True) (fun a => hprog a [] rfl) lent_nil
    (fun _ _ _ _ _ _ _ _ => trivial) (fun _ _ _ _ _ h _ hG hs => h.step hG hs)
    (throughout_of_mem fun _ _ _ _ _ => trivial) ht
  exact ⟨⟨s₁, h⟩, hG⟩

omit [Fintype Actor] in
theorem phases_done (hprog : ∀ a, Leasing (prog a)) (hdone : (prog a).Runs (ofActor a t) (.done ())) :
    phases t a = .out := by
  have hpost := (hprog a [] rfl).post hdone (Prog.admits_true _ _)
  rwa [List.append_nil] at hpost

/-- **Handed over**: between the uses that two programs make of an object, the first one gave it back. -/
theorem handed_over (hprog : ∀ a, Leasing (prog a)) (hx : Execution step prog {} t s) {e e' : Use}
    (ht : t = before ++ (a, .used r e) :: (mid ++ (b, .used r e') :: after)) (hab : a ≠ b) : (a, .pushed r) ∈ mid := by
  have hsecond : t = (before ++ [(a, .used r e)] ++ mid) ++ (b, .used r e') :: after := by simp [ht]
  obtain ⟨⟨s₁, hlent⟩, hb⟩ := execution_leased hprog hx hsecond
  have ha : phases (before ++ [(a, .used r e)]) a = .holding r :=
    phases_self.trans (execution_leased hprog hx ht).2
  have hgiven : (a, .pushed r) ∈ mid ∨ (a, .dropped r) ∈ mid := by
    apply given_up ha
    · intro m f m' hm
      have hmid : t = (before ++ [(a, .used r e)] ++ m) ++ (a, f) :: (m' ++ (b, .used r e') :: after) := by
        simp [ht, hm]
      exact (execution_leased hprog hx hmid).2
    · exact fun hstill => hab (hlent.alone hstill hb)
  refine hgiven.resolve_right fun hdropped => hlent.not_gone hb ?_
  exact List.mem_filterMap.2 ⟨_, List.mem_append_right _ hdropped, rfl⟩

end Runs

end Leases
end Graftcode
