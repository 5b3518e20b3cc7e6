import Graftcode.Executions
/-!
# Monitor — what programs do under one mutex

Programs share a state that they touch only while they hold a mutex (`guarded`).  What a program does from taking the
mutex to letting it go is a section; `order` lists the sections of a trace.  The rule is that of a monitor: in a section
a program is alone (`Alone`), and the state is what the sections make of it one after the other (`serial`).
-/
namespace Graftcode
namespace Monitor

open Prog (emit)

variable {In Out Actor σ ε α : Type}

inductive Event (In Out : Type) where
  | acquire
  -- touches the shared state
  | inside (e : In)
  | release
  | outside (e : Out)

def letGo : Prog ε (Event In Out) Unit := emit fun _ : Unit => Event.release

/-- A scoped lock: the mutex is let go when the body throws, too. -/
def guarded (body : Prog ε In α) : Prog ε (Event In Out) α := do
  emit (fun _ : Unit => Event.acquire)
  let a ← (body.under Event.inside).tryCatch fun e => do
    letGo
    Prog.throw e
  letGo
  pure a

/-! ## The sections of one program -/

/-- The section a program is in, and those it is done with; all of it latest first. -/
structure Sections (In : Type) where
  current : Option (List In) := none
  done : List (List In) := []

def Sections.all (p : Sections In) : List (List In) := p.current.toList ++ p.done

def Sections.next (p : Sections In) : Event In Out → Sections In
  | .acquire   => { p with current := some [] }
  | .inside e  => { p with current := p.current.map (e :: ·) }
  | .release   => { current := none, done := p.all }
  | .outside _ => p

/-- The sections of a history, latest event first. -/
def sectionsOf (h : List (Event In Out)) : Sections In := h.foldr (fun e p => p.next e) {}

/-- Sections do not nest and nothing is touched outside of them.  `P` says what has been done in a section so far, `D`
how it may end, and `O` what is done between sections; each of them knows the sections before. -/
def Sectioned (P D : List (List In) → List In → Prop) (O : List (List In) → Out → Prop) (h : List (Event In Out)) :
    Event In Out → Prop
  | .acquire   => (sectionsOf h).current = none ∧ P (sectionsOf h).done []
  | .inside e  => ∃ es, (sectionsOf h).current = some es ∧ P (sectionsOf h).done (e :: es)
  | .release   => ∃ es, (sectionsOf h).current = some es ∧ D (sectionsOf h).done es
  | .outside e => (sectionsOf h).current = none ∧ O (sectionsOf h).done e

/-- What a section relies on, by what it has done itself. -/
def Relies (R : List In → In → Prop) (h : List (Event In Out)) (e : Event In Out) : Prop :=
  ∀ e' es, e = .inside e' → (sectionsOf h).current = some es → R es e'

/-- Every section that is over, at the sections before it. -/
def Over (D : List (List In) → List In → Prop) : List (List In) → Prop
  | []      => True
  | es :: d => D d es ∧ Over D d

/-- What is known of the sections of a program that keeps to them. -/
structure Accounted (P D : List (List In) → List In → Prop) (p : Sections In) : Prop where
  current : ∀ es, p.current = some es → P p.done es
  done : Over D p.done

theorem sectionsOf_cons (e : Event In Out) (h : List (Event In Out)) : sectionsOf (e :: h) = (sectionsOf h).next e :=
  rfl

theorem sectionsOf_inside {d : List (List In)} {g : List (Event In Out)} (hg : sectionsOf g = ⟨some [], d⟩) :
    ∀ es : List In, sectionsOf (es.map Event.inside ++ g) = ⟨some es, d⟩
  | []      => hg
  | e :: es => by
    rw [List.map_cons, List.cons_append, sectionsOf_cons, sectionsOf_inside hg es]
    rfl

variable {P D : List (List In) → List In → Prop} {O : List (List In) → Out → Prop} {h : List (Event In Out)}
  {e : Event In Out}

theorem Accounted.next (hp : Accounted P D (sectionsOf h)) (hG : Sectioned P D O h e) :
    Accounted P D (sectionsOf (e :: h)) := by
  rw [sectionsOf_cons]
  cases e with
  | acquire   =>
    refine ⟨fun es hes => ?_, hp.done⟩
    cases hes
    exact hG.2
  | inside e  =>
    obtain ⟨es, hcurrent, hP⟩ := hG
    refine ⟨fun es' hes => ?_, hp.done⟩
    simp only [Sections.next, hcurrent, Option.map_some, Option.some.injEq] at hes
    subst hes
    exact hP
  | release   =>
    obtain ⟨es, hcurrent, hD⟩ := hG
    constructor
    · intro es' hes
      cases hes
    · show Over D (Sections.all _)
      rw [Sections.all, hcurrent]
      exact ⟨hD, hp.done⟩
  | outside e => exact hp

/-- A section that is over, by its place. -/
theorem Over.get {i : Nat} {es : List In} : ∀ {d : List (List In)}, Over D d → d.reverse[i]? = some es →
    ∃ d', d'.length = i ∧ D d' es
  | [], _, hi      => by simp at hi
  | es' :: d, h, hi => by
    rw [List.reverse_cons] at hi
    by_cases hlt : i < d.reverse.length
    · rw [List.getElem?_append_left hlt] at hi
      exact h.2.get hi
    · rw [List.getElem?_append_right (Nat.not_lt.1 hlt), List.getElem?_singleton] at hi
      obtain ⟨hzero, hes⟩ := Option.ite_none_right_eq_some.1 hi
      refine ⟨d, ?_, Option.some.inj hes ▸ h.1⟩
      rw [List.length_reverse] at hlt hzero
      omega

/-- A section by its place: it is over, or the program is in it. -/
theorem Accounted.get {p : Sections In} (hp : Accounted P D p) {i : Nat} {es : List In}
    (hi : p.all.reverse[i]? = some es) :
    (∃ d, d.length = i ∧ D d es) ∨ p.current = some es ∧ p.done.length = i ∧ P p.done es := by
  rw [Sections.all, List.reverse_append] at hi
  by_cases hlt : i < p.done.reverse.length
  · rw [List.getElem?_append_left hlt] at hi
    exact .inl (hp.done.get hi)
  · rw [List.getElem?_append_right (Nat.not_lt.1 hlt)] at hi
    rw [List.length_reverse] at hlt hi
    cases hcurrent : p.current with
    | none     =>
      rw [hcurrent] at hi
      simp at hi
    | some es' =>
      rw [hcurrent, Option.toList_some, List.reverse_singleton, List.getElem?_singleton] at hi
      obtain ⟨hzero, hes⟩ := Option.ite_none_right_eq_some.1 hi
      obtain rfl := Option.some.inj hes
      exact .inr ⟨rfl, by omega, hp.current _ hcurrent⟩

section Guarded

variable {R : List In → In → Prop} {Q : List (Event In Out) → Except ε α → Prop} {body : Prog ε In α}
  {d : List (List In)}

/-- The rule of a scoped lock: the body is a section. -/
theorem safe_guarded (hd : sectionsOf h = ⟨none, d⟩) (hfirst : P d [])
    (hbody : body.Safe R (fun es e => P d (e :: es))
      (fun es r => D d es ∧ ∀ h' : List (Event In Out), sectionsOf h' = ⟨none, es :: d⟩ → Q h' r) []) :
    (guarded body).Safe (Relies R) (Sectioned P D O) Q h := by
  have hacquired : sectionsOf (.acquire :: h) = ⟨some [], d⟩ := by
    rw [sectionsOf_cons, hd]
    rfl
  have hin : ∀ es : List In, sectionsOf (es.map Event.inside ++ .acquire :: h) = ⟨some es, d⟩ :=
    sectionsOf_inside hacquired
  have hout : ∀ es : List In, sectionsOf (.release :: (es.map Event.inside ++ .acquire :: h)) = ⟨none, es :: d⟩ :=
    fun es => by
      rw [sectionsOf_cons, hin]
      rfl
  have hrelease : ∀ es, D d es → Sectioned P D O (es.map Event.inside ++ .acquire :: h) .release := by
    intro es hD
    refine ⟨es, by rw [hin], ?_⟩
    rw [hin]
    exact hD
  unfold guarded letGo
  rw [Prog.safe_bind, Prog.safe_emit]
  intro _ _
  constructor
  · show (sectionsOf h).current = none ∧ P (sectionsOf h).done []
    rw [hd]
    exact ⟨rfl, hfirst⟩
  rw [Prog.andThen_ok, Prog.safe_bind, Prog.safe_tryCatch, Prog.safe_under]
  apply (hbody.weaken _ _).mono
  · intro es r hr
    cases r with
    | ok a =>
      intro _ _
      exact ⟨hrelease es hr.1, hr.2 _ (hout es)⟩
    | error e =>
      intro _ _
      exact ⟨hrelease es hr.1, hr.2 _ (hout es)⟩
  · intro es e hR
    apply hR e es rfl
    rw [hin]
  · intro es e hP
    refine ⟨es, by rw [hin], ?_⟩
    rw [hin]
    exact hP

/-- A scoped lock does nothing outside of its section. -/
theorem keeps_guarded (body : Prog ε In α) {R : List (Event In Out) → Event In Out → Prop} (h : List (Event In Out)) :
    Prog.Keeps R (fun _ e => ∀ x, e ≠ .outside x) (guarded body) h := by
  unfold guarded letGo
  apply Prog.keeps_emit_bind fun _ x => by simp
  intro _
  apply Prog.Safe.keeps_bind
  · apply Prog.Safe.keeps_tryCatch
    · rw [Prog.Keeps, Prog.safe_under]
      exact (Prog.safe_true body []).weaken (fun _ _ hR => hR) fun es e _ x => by simp
    · intro e h'
      exact Prog.keeps_emit_bind (fun _ x => by simp) fun _ => trivial
  · intro a h' _
    exact Prog.keeps_emit_bind (fun _ x => by simp) fun _ => trivial

end Guarded

/-! ## The sections of a trace -/

/-- Who holds the mutex, and the state under it. -/
structure State (Actor σ : Type) where
  holder : Option Actor := none
  shared : σ

/-- Only the mutex makes anybody wait: an event inside is taken from whoever has it. -/
def step [DecidableEq Actor] (touch : σ → Actor → In → Option σ) (s : State Actor σ) (a : Actor) :
    Event In Out → Option (State Actor σ)
  | .acquire   => if s.holder = none then some { s with holder := some a } else none
  | .inside e  => (touch s.shared a e).map fun shared => { s with shared }
  | .release   => some { s with holder := none }
  | .outside _ => some s

/-- What is done between the sections. -/
def outsides (h : List (Event In Out)) : List Out :=
  h.filterMap fun e =>
    match e with
    | .outside e => some e
    | _          => none

/-- What is touched, in order. -/
def insides (t : List (Actor × Event In Out)) : List (Actor × In) :=
  t.filterMap fun x =>
    match x.2 with
    | .inside e => some (x.1, e)
    | _         => none

/-- The sections with one more event; the latest section is that of the event. -/
def enter (parts : List (Actor × List In)) (x : Actor × Event In Out) : List (Actor × List In) :=
  match x.2, parts with
  | .acquire, parts             => (x.1, []) :: parts
  | .inside e, (b, es) :: parts => (b, e :: es) :: parts
  | _, parts                    => parts

/-- The sections of a trace in the order of their beginning, latest first. -/
def order (t : List (Actor × Event In Out)) : List (Actor × List In) := t.foldl enter []

/-- What sections do, one after the other. -/
def flat (parts : List (Actor × List In)) : List (Actor × In) :=
  parts.reverse.flatMap fun p => p.2.reverse.map fun e => (p.1, e)

theorem order_concat (t : List (Actor × Event In Out)) (x : Actor × Event In Out) :
    order (t ++ [x]) = enter (order t) x := by
  rw [order, List.foldl_append]
  rfl

theorem insides_concat (t : List (Actor × Event In Out)) (x : Actor × Event In Out) :
    insides (t ++ [x]) = insides t ++ insides [x] := List.filterMap_append ..

theorem flat_cons (a : Actor) (es : List In) (parts : List (Actor × List In)) :
    flat ((a, es) :: parts) = flat parts ++ es.reverse.map fun e => (a, e) := by
  simp [flat]

theorem flat_cons_cons (a : Actor) (e : In) (es : List In) (parts : List (Actor × List In)) :
    flat ((a, e :: es) :: parts) = flat ((a, es) :: parts) ++ [(a, e)] := by
  simp [flat_cons]

theorem mem_insides {a : Actor} {e : In} {t : List (Actor × Event In Out)} :
    (a, e) ∈ insides t ↔ (a, .inside e) ∈ t := by
  unfold insides
  rw [List.mem_filterMap]
  constructor
  · rintro ⟨⟨b, e'⟩, hm, hb⟩
    cases e' with
    | inside e' =>
      cases hb
      exact hm
    | _ => cases hb
  · intro hm
    exact ⟨(a, .inside e), hm, rfl⟩

section Serial

variable [DecidableEq Actor] {touch : σ → Actor → In → Option σ}

/-- Nobody else has touched the state since the section began. -/
def Alone (touch : σ → Actor → In → Option σ) (a : Actor) (es : List In) (e : In) : Prop :=
  ∃ s₁ s₂ s₃, replay touch s₁ (es.reverse.map fun e => (a, e)) = some s₂ ∧ touch s₂ a e = some s₃

/-- The sections of the trace are those of its programs, and the state is what they make of it one by one. -/
structure Serial (touch : σ → Actor → In → Option σ) (s₀ : σ) (t : List (Actor × Event In Out)) (s : State Actor σ) :
    Prop where
  holder : ∀ a, s.holder = some a ↔ ((sectionsOf (historiesOf t a)).current).isSome = true
  own : ∀ a, ofActor a (order t) = (sectionsOf (historiesOf t a)).all
  latest : ∀ a es, (sectionsOf (historiesOf t a)).current = some es → ∃ rest, order t = (a, es) :: rest
  insides : flat (order t) = insides t
  replays : replay touch s₀ (Monitor.insides t) = some s.shared

theorem serial_nil (s₀ : σ) : Serial touch s₀ ([] : List (Actor × Event In Out)) { shared := s₀ } where
  holder a := by simp [sectionsOf]
  own _ := rfl
  latest a es h := by cases h
  insides := rfl
  replays := rfl

variable {s₀ : σ} {t : List (Actor × Event In Out)} {s s' : State Actor σ} {a b : Actor}

theorem sectionsOf_self :
    sectionsOf (historiesOf (t ++ [(a, e)]) a) = (sectionsOf (historiesOf t a)).next e := by
  rw [historiesOf_concat, Function.update_self, sectionsOf_cons]

theorem sectionsOf_other (hb : b ≠ a) : sectionsOf (historiesOf (t ++ [(a, e)]) b) = sectionsOf (historiesOf t b) := by
  rw [historiesOf_concat, Function.update_of_ne hb]

theorem ofActor_cons_of_ne {parts : List (Actor × List In)} {es : List In} (hb : b ≠ a) :
    ofActor b ((a, es) :: parts) = ofActor b parts := by
  simp [ofActor, Ne.symm hb]

/-- Where the section of the actor is in the trace. -/
theorem Serial.split (h : Serial touch s₀ t s) {es : List In}
    (hcurrent : (sectionsOf (historiesOf t a)).current = some es) :
    ∃ rest, order t = (a, es) :: rest ∧ Monitor.insides t = flat rest ++ es.reverse.map fun e => (a, e) := by
  obtain ⟨rest, horder⟩ := h.latest a es hcurrent
  refine ⟨rest, horder, ?_⟩
  rw [← h.insides, horder, flat_cons]

/-- What an actor has touched is in its sections. -/
theorem Serial.mem_iff (h : Serial touch s₀ t s) {e : In} :
    (∃ es ∈ (sectionsOf (historiesOf t a)).all, e ∈ es) ↔ (a, .inside e) ∈ t := by
  rw [← mem_insides, ← h.insides, ← h.own a, flat, List.mem_flatMap]
  constructor
  · rintro ⟨es, hes, he⟩
    exact ⟨(a, es), List.mem_reverse.2 (mem_ofActor.1 hes), List.mem_map.2 ⟨e, List.mem_reverse.2 he, rfl⟩⟩
  · rintro ⟨⟨b, es⟩, hes, he⟩
    obtain ⟨e', he', heq⟩ := List.mem_map.1 he
    cases heq
    exact ⟨es, mem_ofActor.2 (List.mem_reverse.1 hes), List.mem_reverse.1 he'⟩

theorem Serial.alone (h : Serial touch s₀ t s) {es : List In} {e : In}
    (hcurrent : (sectionsOf (historiesOf t a)).current = some es)
    (hs : Monitor.step touch s a (.inside e : Event In Out) = some s') : Alone touch a es e := by
  obtain ⟨rest, -, hinsides⟩ := h.split hcurrent
  have hr := h.replays
  rw [hinsides, replay_append, Option.bind_eq_some_iff] at hr
  obtain ⟨s₁, -, hes⟩ := hr
  rw [Monitor.step, Option.map_eq_some_iff] at hs
  obtain ⟨s₃, hs, -⟩ := hs
  exact ⟨s₁, s.shared, s₃, hes, hs⟩

theorem Serial.acquire (h : Serial touch s₀ t s) (hidle : (sectionsOf (historiesOf t a)).current = none)
    (hfree : s.holder = none) :
    Serial touch s₀ (t ++ [(a, (.acquire : Event In Out))]) { s with holder := some a } where
  holder b := by
    by_cases hb : b = a
    · subst hb
      rw [sectionsOf_self]
      simp [Sections.next]
    · have hb' := h.holder b
      rw [hfree] at hb'
      rw [sectionsOf_other hb, ← hb']
      simp [Ne.symm hb]
  own b := by
    rw [order_concat]
    by_cases hb : b = a
    · subst hb
      rw [sectionsOf_self]
      have hown := h.own b
      rw [Sections.all, hidle] at hown
      show ofActor b ((b, []) :: order t) = _
      rw [ofActor_cons_self, hown]
      rfl
    · rw [sectionsOf_other hb]
      show ofActor b ((a, []) :: order t) = _
      rw [ofActor_cons_of_ne hb, h.own b]
  latest b es hes := by
    rw [order_concat]
    by_cases hb : b = a
    · subst hb
      rw [sectionsOf_self] at hes
      cases hes
      exact ⟨order t, rfl⟩
    · rw [sectionsOf_other hb] at hes
      have hheld := (h.holder b).2 (by rw [hes]; rfl)
      rw [hfree] at hheld
      cases hheld
  insides := by
    rw [order_concat, insides_concat, ← h.insides]
    show flat ((a, []) :: order t) = _
    rw [flat_cons]
    rfl
  replays := by
    rw [insides_concat]
    show replay touch s₀ (Monitor.insides t ++ []) = _
    rw [List.append_nil]
    exact h.replays

/-- The holder is one. -/
theorem Serial.other_idle (h : Serial touch s₀ t s) {es : List In}
    (hcurrent : (sectionsOf (historiesOf t a)).current = some es) (hb : b ≠ a) :
    (sectionsOf (historiesOf t b)).current = none := by
  by_contra hnot
  have ha := (h.holder a).2 (by rw [hcurrent]; rfl)
  have hb' := (h.holder b).2 (Option.isSome_iff_ne_none.2 hnot)
  rw [ha, Option.some.injEq] at hb'
  exact hb hb'.symm

theorem Serial.inside (h : Serial touch s₀ t s) {e : In} {es : List In} {shared : σ}
    (hcurrent : (sectionsOf (historiesOf t a)).current = some es) (hs : touch s.shared a e = some shared) :
    Serial touch s₀ (t ++ [(a, (.inside e : Event In Out))]) { s with shared } := by
  obtain ⟨rest, horder⟩ := h.latest a es hcurrent
  have horder' : order (t ++ [(a, (.inside e : Event In Out))]) = (a, e :: es) :: rest := by
    rw [order_concat, horder]
    rfl
  have hinsides : Monitor.insides (t ++ [(a, (.inside e : Event In Out))]) = Monitor.insides t ++ [(a, e)] :=
    insides_concat _ _
  constructor
  · intro b
    rw [h.holder b]
    by_cases hb : b = a
    · subst hb
      rw [sectionsOf_self]
      simp [Sections.next, hcurrent]
    · rw [sectionsOf_other hb]
  · intro b
    rw [horder']
    by_cases hb : b = a
    · subst hb
      have hown := h.own b
      rw [horder, ofActor_cons_self, Sections.all, hcurrent] at hown
      rw [sectionsOf_self, ofActor_cons_self, (List.cons.inj hown).2]
      simp [Sections.next, Sections.all, hcurrent]
    · rw [sectionsOf_other hb, ofActor_cons_of_ne hb, ← h.own b, horder, ofActor_cons_of_ne hb]
  · intro b es' hes
    by_cases hb : b = a
    · subst hb
      rw [sectionsOf_self] at hes
      simp only [Sections.next, hcurrent, Option.map_some, Option.some.injEq] at hes
      exact ⟨rest, by rw [horder', hes]⟩
    · rw [sectionsOf_other hb, h.other_idle hcurrent hb] at hes
      cases hes
  · rw [horder', flat_cons_cons, ← horder, h.insides, hinsides]
  · rw [hinsides]
    exact replay_concat.2 ⟨s.shared, h.replays, hs⟩

theorem Serial.release (h : Serial touch s₀ t s) {es : List In}
    (hcurrent : (sectionsOf (historiesOf t a)).current = some es) :
    Serial touch s₀ (t ++ [(a, (.release : Event In Out))]) { s with holder := none } := by
  have horder : order (t ++ [(a, (.release : Event In Out))]) = order t := by
    rw [order_concat]
    rfl
  have hinsides : Monitor.insides (t ++ [(a, (.release : Event In Out))]) = Monitor.insides t := by
    rw [insides_concat]
    exact List.append_nil _
  have hnone : ∀ b, (sectionsOf (historiesOf (t ++ [(a, (.release : Event In Out))]) b)).current = none := by
    intro b
    by_cases hb : b = a
    · subst hb
      rw [sectionsOf_self]
      rfl
    · rw [sectionsOf_other hb]
      exact h.other_idle hcurrent hb
  constructor
  · intro b
    rw [hnone b]
    simp
  · intro b
    rw [horder, h.own b]
    by_cases hb : b = a
    · subst hb
      rw [sectionsOf_self]
      rfl
    · rw [sectionsOf_other hb]
  · intro b es' hes
    rw [hnone b] at hes
    cases hes
  · rw [horder, hinsides]
    exact h.insides
  · rw [hinsides]
    exact h.replays

theorem Serial.outside (h : Serial touch s₀ t s) (e : Out) :
    Serial touch s₀ (t ++ [(a, (.outside e : Event In Out))]) s := by
  have horder : order (t ++ [(a, (.outside e : Event In Out))]) = order t := by
    rw [order_concat]
    rfl
  have hinsides : Monitor.insides (t ++ [(a, (.outside e : Event In Out))]) = Monitor.insides t := by
    rw [insides_concat]
    exact List.append_nil _
  have hsame : ∀ b,
      sectionsOf (historiesOf (t ++ [(a, (.outside e : Event In Out))]) b) = sectionsOf (historiesOf t b) := by
    intro b
    by_cases hb : b = a
    · subst hb
      rw [sectionsOf_self]
      rfl
    · exact sectionsOf_other hb
  constructor
  · intro b
    rw [hsame b]
    exact h.holder b
  · intro b
    rw [horder, hsame b]
    exact h.own b
  · intro b es hes
    rw [hsame b] at hes
    rw [horder]
    exact h.latest b es hes
  · rw [horder, hinsides]
    exact h.insides
  · rw [hinsides]
    exact h.replays

theorem Serial.step (h : Serial touch s₀ t s) (hG : Sectioned P D O (historiesOf t a) e)
    (hs : Monitor.step touch s a e = some s') : Serial touch s₀ (t ++ [(a, e)]) s' := by
  cases e with
  | acquire   =>
    rw [Monitor.step, Option.ite_none_right_eq_some, Option.some.injEq] at hs
    obtain ⟨hfree, rfl⟩ := hs
    exact h.acquire hG.1 hfree
  | inside e  =>
    obtain ⟨es, hcurrent, -⟩ := hG
    rw [Monitor.step, Option.map_eq_some_iff] at hs
    obtain ⟨shared, hs, rfl⟩ := hs
    exact h.inside hcurrent hs
  | release   =>
    obtain ⟨es, hcurrent, -⟩ := hG
    cases hs
    exact h.release hcurrent
  | outside e =>
    cases hs
    exact h.outside e

/-! ## The rule -/

section Rule

variable {prog : Actor → Prog ε (Event In Out) Unit} {R : List In → In → Prop}
  {Q : Actor → List (Event In Out) → Except ε Unit → Prop} {before after : List (Actor × Event In Out)}
  {P D : Actor → List (List In) → List In → Prop} {O : Actor → List (List In) → Out → Prop}

/-- What the rule keeps: the sections are serial, and those of every program are accounted for. -/
structure Orderly (touch : σ → Actor → In → Option σ) (s₀ : σ) (P D : Actor → List (List In) → List In → Prop)
    (t : List (Actor × Event In Out)) (s : State Actor σ) : Prop where
  serial : Serial touch s₀ t s
  accounted : ∀ a, Accounted (P a) (D a) (sectionsOf (historiesOf t a))

theorem orderly_nil : Orderly touch s₀ P D ([] : List (Actor × Event In Out)) { shared := s₀ } where
  serial := serial_nil s₀
  accounted _ := by
    constructor
    · intro es hes
      cases hes
    · trivial

theorem Orderly.relies (h : Orderly touch s₀ P D t s) (hR : ∀ a es e, Alone touch a es e → R es e)
    (hs : Monitor.step touch s a e = some s') : Relies R (historiesOf t a) e := by
  rintro e' es rfl hcurrent
  exact hR a es e' (h.serial.alone hcurrent hs)

theorem Orderly.step (h : Orderly touch s₀ P D t s) (hG : Sectioned (P a) (D a) (O a) (historiesOf t a) e)
    (hs : Monitor.step touch s a e = some s') : Orderly touch s₀ P D (t ++ [(a, e)]) s' := by
  refine ⟨h.serial.step hG hs, fun b => ?_⟩
  by_cases hb : b = a
  · subst hb
    rw [historiesOf_concat, Function.update_self]
    exact (h.accounted b).next hG
  · rw [sectionsOf_other hb]
    exact h.accounted b

/-- **The rule of a monitor**: programs that keep to sections, relying in each on what holds when they are alone, touch
the state section after section. -/
theorem orderly (hR : ∀ a es e, Alone touch a es e → R es e)
    (hsafe : ∀ a, (prog a).Safe (Relies R) (Sectioned (P a) (D a) (O a)) (Q a) [])
    (hx : Execution (Monitor.step touch) prog { shared := s₀ } t s) :
    Orderly touch s₀ P D t s ∧ ∀ a, Prog.Admits (Relies R) [] (ofActor a t) :=
  Execution.invariant hsafe orderly_nil (fun _ _ _ _ _ h _ hs => h.relies hR hs)
    (fun _ _ _ _ _ h _ hG hs => h.step hG hs) hx (throughout_of_mem fun _ _ _ _ _ => trivial)

/-- Before an event everything has been orderly, and the event is one its program may have. -/
theorem orderly_at (hR : ∀ a es e, Alone touch a es e → R es e)
    (hsafe : ∀ a, (prog a).Safe (Relies R) (Sectioned (P a) (D a) (O a)) (Q a) [])
    (hx : Execution (Monitor.step touch) prog { shared := s₀ } t s) (ht : t = before ++ (a, e) :: after) :
    ∃ s₁ s₂, Orderly touch s₀ P D before s₁ ∧ Monitor.step touch s₁ a e = some s₂ ∧
      Sectioned (P a) (D a) (O a) (historiesOf before a) e :=
  Execution.invariant_at hsafe orderly_nil (fun _ _ _ _ _ h _ hs => h.relies hR hs)
    (fun _ _ _ _ _ h _ hG hs => h.step hG hs) hx (throughout_of_mem fun _ _ _ _ _ => trivial) ht

end Rule

end Serial
end Monitor
end Graftcode
