import Graftcode.Machine
/-!
# ExceptionHooks — the hooks that a pipeline puts in and takes out

The constructor and `close` of `GraftCodeAppInsightsConnectorPipeline`, in Python and Java, as far as the process's hooks for
uncaught exceptions go.  A `Slot` is a place for a hook: `sys.excepthook` and `threading.excepthook`, or the default
handler of the JVM.
-/
namespace Graftcode
namespace AppInsights

/-- A hook: one of the process, or `_on_uncaught_exception` of a pipeline. -/
inductive Hook (Outside : Type) where
  | outside (hook : Outside)
  | pipeline (id : Nat)

structure Pipeline (Slot Outside : Type) where
  previous : Slot → Hook Outside
  closed   : Bool

/-- The pipelines in the order of their creation, a pipeline's id its place. -/
structure Process (Slot Outside : Type) where
  hook      : Slot → Hook Outside
  pipelines : List (Pipeline Slot Outside)

inductive Call where
  | create
  | close (id : Nat)

namespace Process

variable {Slot Outside : Type}

/-- The process before the first pipeline. -/
def start (hooks : Slot → Outside) : Process Slot Outside := ⟨fun slot => .outside (hooks slot), []⟩

def isHookOf (id : Nat) : Hook Outside → Bool
  | .pipeline id' => id' == id
  | .outside _    => false

def create (s : Process Slot Outside) : Process Slot Outside where
  hook _ := .pipeline s.pipelines.length
  pipelines := s.pipelines ++ [⟨s.hook, false⟩]

/-- Each hook is put back only where the pipeline's own is in. -/
def close (s : Process Slot Outside) (id : Nat) (p : Pipeline Slot Outside) : Process Slot Outside :=
  if p.closed then s
  else
    { hook := fun slot => if isHookOf id (s.hook slot) then p.previous slot else s.hook slot
      pipelines := s.pipelines.set id { p with closed := true } }

def step (s : Process Slot Outside) : Call → Option (Process Slot Outside × Unit)
  | .create   => some (s.create, ())
  | .close id => (s.pipelines[id]?).map fun p => (s.close id p, ())

/-! ## What is asked of the hooks -/

/-- The hooks of the process are in again when all pipelines are closed, and no closed pipeline's is ever in. -/
structure Restored (hooks : Slot → Outside) (s : Process Slot Outside) : Prop where
  all  : (∀ p ∈ s.pipelines, p.closed = true) → ∀ slot, s.hook slot = .outside (hooks slot)
  none : ∀ id (p : Pipeline Slot Outside) slot, s.pipelines[id]? = some p → p.closed = true → s.hook slot ≠ .pipeline id

/-- The call closes a pipeline whose hook is in and that found the hook of one that is closed by now. -/
def Revives (s : Process Slot Outside) (call : Call) : Prop :=
  ∃ id p slot found q, call = .close id ∧ s.pipelines[id]? = some p ∧ p.closed = false ∧ s.hook slot = .pipeline id ∧
    p.previous slot = .pipeline found ∧ s.pipelines[found]? = some q ∧ q.closed = true

/-- A hook of the process, or of an open pipeline. -/
def Live (hooks : Slot → Outside) (s : Process Slot Outside) (slot : Slot) : Prop :=
  s.hook slot = .outside (hooks slot) ∨
    ∃ id p, s.hook slot = .pipeline id ∧ s.pipelines[id]? = some p ∧ p.closed = false

/-- Each pipeline found a hook of the process, or of a pipeline made before it. -/
structure Chained (hooks : Slot → Outside) (s : Process Slot Outside) : Prop where
  live  : ∀ slot, Live hooks s slot
  found : ∀ id (p : Pipeline Slot Outside) slot, s.pipelines[id]? = some p →
    p.previous slot = .outside (hooks slot) ∨ ∃ id' < id, p.previous slot = .pipeline id'

variable {hooks : Slot → Outside} {s s' : Process Slot Outside}

theorem isHookOf_iff {id : Nat} {hook : Hook Outside} : isHookOf id hook = true ↔ hook = .pipeline id := by
  cases hook <;> simp [isHookOf]

theorem chained_start (hooks : Slot → Outside) : Chained hooks (start hooks) where
  live _ := Or.inl rfl
  found _ _ _ h := by cases h

theorem Chained.restored (h : Chained hooks s) : Restored hooks s where
  all hall slot := by
    rcases h.live slot with hout | ⟨id, p, -, hget, hopen⟩
    · exact hout
    · rw [hall p (List.mem_of_getElem? hget)] at hopen
      cases hopen
  none id p slot hget hclosed hin := by
    rcases h.live slot with hout | ⟨id', p', hin', hget', hopen⟩
    · rw [hout] at hin
      cases hin
    · rw [hin] at hin'
      cases hin'
      rw [hget] at hget'
      cases hget'
      rw [hclosed] at hopen
      cases hopen

theorem Chained.create (h : Chained hooks s) : Chained hooks s.create where
  live slot := Or.inr ⟨s.pipelines.length, ⟨s.hook, false⟩, rfl, by simp [Process.create], rfl⟩
  found id p slot hget := by
    by_cases hlt : id < s.pipelines.length
    · rw [Process.create, List.getElem?_append_left hlt] at hget
      exact h.found id p slot hget
    · rw [Process.create, List.getElem?_append_right (Nat.not_lt.1 hlt)] at hget
      obtain ⟨hid, rfl⟩ : id - s.pipelines.length = 0 ∧ ⟨s.hook, false⟩ = p := by
        cases hsub : id - s.pipelines.length with
        | zero =>
          rw [hsub] at hget
          exact ⟨rfl, Option.some.inj hget⟩
        | succ n =>
          rw [hsub] at hget
          cases hget
      rcases h.live slot with hout | ⟨id', p', hin, hget', -⟩
      · exact Or.inl hout
      · exact Or.inr ⟨id', Nat.lt_of_lt_of_le (List.getElem?_eq_some_iff.1 hget').1 (Nat.not_lt.1 hlt), hin⟩

theorem close_of_closed {id : Nat} {p : Pipeline Slot Outside} (h : p.closed = true) : s.close id p = s := if_pos h

theorem close_of_open {id : Nat} {p : Pipeline Slot Outside} (h : p.closed = false) :
    s.close id p = { hook := fun slot => if isHookOf id (s.hook slot) then p.previous slot else s.hook slot
                     pipelines := s.pipelines.set id { p with closed := true } } := by
  rw [Process.close, h, if_neg Bool.false_ne_true]

theorem hook_close_own {id : Nat} {p : Pipeline Slot Outside} (h : p.closed = false) {slot : Slot}
    (hin : s.hook slot = .pipeline id) : (s.close id p).hook slot = p.previous slot := by
  rw [close_of_open h]
  exact if_pos (isHookOf_iff.2 hin)

theorem hook_close_ne {id : Nat} (p : Pipeline Slot Outside) {slot : Slot} (hin : s.hook slot ≠ .pipeline id) :
    (s.close id p).hook slot = s.hook slot := by
  cases h : p.closed with
  | true => rw [close_of_closed h]
  | false =>
    rw [close_of_open h]
    exact if_neg fun hown => hin (isHookOf_iff.1 hown)

theorem pipelines_close_ne {id id' : Nat} (p : Pipeline Slot Outside) (hne : id ≠ id') :
    (s.close id p).pipelines[id']? = s.pipelines[id']? := by
  cases h : p.closed with
  | true => rw [close_of_closed h]
  | false =>
    rw [close_of_open h]
    exact List.getElem?_set_ne hne

/-- What a close makes of its own pipeline. -/
theorem pipelines_close_self {id : Nat} {p q : Pipeline Slot Outside} (hget : s.pipelines[id]? = some p)
    (hq : (s.close id p).pipelines[id]? = some q) : q.previous = p.previous ∧ q.closed = true := by
  cases h : p.closed with
  | true =>
    rw [close_of_closed h, hget] at hq
    cases hq
    exact ⟨rfl, h⟩
  | false =>
    rw [close_of_open h] at hq
    dsimp only at hq
    rw [List.getElem?_set_self (List.getElem?_eq_some_iff.1 hget).1] at hq
    cases hq
    exact ⟨rfl, rfl⟩

theorem Chained.close (h : Chained hooks s) {id : Nat} {p : Pipeline Slot Outside} (hget : s.pipelines[id]? = some p)
    (hrevives : ¬ Revives s (.close id)) : Chained hooks (s.close id p) := by
  by_cases hclosed : p.closed = true
  · rw [close_of_closed hclosed]
    exact h
  rw [Bool.not_eq_true] at hclosed
  constructor
  · intro slot
    unfold Live
    by_cases hin : s.hook slot = .pipeline id
    · rw [hook_close_own hclosed hin]
      rcases h.found id p slot hget with hout | ⟨id', hid', hprevious⟩
      · exact Or.inl hout
      · -- The hook that was found is of a pipeline made before; it is open, or this close would revive it.
        have hq := List.getElem?_eq_getElem (Nat.lt_trans hid' (List.getElem?_eq_some_iff.1 hget).1)
        right
        refine ⟨id', _, hprevious, (pipelines_close_ne p (Nat.ne_of_gt hid')).trans hq, ?_⟩
        by_contra hdead
        rw [Bool.not_eq_false] at hdead
        exact hrevives ⟨id, p, slot, id', _, rfl, hget, hclosed, hin, hprevious, hq, hdead⟩
    · rw [hook_close_ne p hin]
      rcases h.live slot with hout | ⟨id', q, hin', hq, hopen⟩
      · exact Or.inl hout
      · have hne : id ≠ id' := by
          rintro rfl
          exact hin hin'
        exact Or.inr ⟨id', q, hin', (pipelines_close_ne p hne).trans hq, hopen⟩
  · intro id' q slot hq
    by_cases hid : id = id'
    · subst hid
      rw [(pipelines_close_self hget hq).1]
      exact h.found id p slot hget
    · rw [pipelines_close_ne p hid] at hq
      exact h.found id' q slot hq

theorem Chained.step (h : Chained hooks s) {call : Call} {e : Unit} (hrevives : ¬ Revives s call)
    (hstep : s.step call = some (s', e)) : Chained hooks s' := by
  cases call with
  | create =>
    cases hstep
    exact h.create
  | close id =>
    obtain ⟨p, hget, heq⟩ := Option.map_eq_some_iff.1 hstep
    cases heq
    exact h.close hget hrevives

/-- Such a call leaves the hook of a closed pipeline in. -/
theorem not_restored_of_revives (hrevives : Revives s call) {e : Unit} (hstep : s.step call = some (s', e)) :
    ¬ Restored hooks s' := by
  obtain ⟨id, p, slot, found, q, rfl, hget, hopen, hin, hprevious, hq, hdead⟩ := hrevives
  obtain ⟨p', hget', heq⟩ := Option.map_eq_some_iff.1 hstep
  rw [hget] at hget'
  cases hget'
  cases heq
  have hne : id ≠ found := by
    rintro rfl
    rw [hget] at hq
    cases hq
    rw [hopen] at hdead
    cases hdead
  intro h
  apply h.none found q slot ((pipelines_close_ne p hne).trans hq) hdead
  rw [hook_close_own hopen hin, hprevious]

open Machine

/-- **The hooks are restored throughout a run** exactly when no call of it closes a pipeline whose hook is in after the one
whose hook it had found. -/
theorem restored_iff (hooks : Slot → Outside) (calls : List Call) :
    (∀ before after s es, calls = before ++ after → run step (start hooks) before = some (s, es) → Restored hooks s) ↔
      Along (fun s call => ¬ Revives s call) step (start hooks) calls := by
  constructor
  · intro h
    rw [along_iff]
    intro before call after s es hsplit hrun hrevives
    cases hstep : s.step call with
    | none =>
      obtain ⟨id, p, slot, found, q, rfl, hget, -⟩ := hrevives
      rw [Process.step, hget] at hstep
      cases hstep
    | some r =>
      obtain ⟨s', e⟩ := r
      have hreached := run_concat hrun hstep
      exact not_restored_of_revives hrevives hstep (h (before ++ [call]) after s' _ (by rw [hsplit]; simp) hreached)
  · intro h before after s es hsplit hrun
    have hbefore : Along (fun s call => ¬ Revives s call) step (start hooks) before := by
      rw [along_iff] at h ⊢
      intro pre call post s' es' hpre hr
      exact h pre call (post ++ after) s' es' (by rw [hsplit, hpre]; simp) hr
    have hchained := run_along (P := fun s _ => Chained hooks s)
      (fun s t call s' e hok hs hstep => hs.step hok hstep) before (t := []) hbefore (chained_start hooks) hrun
    exact hchained.restored

/-- Two pipelines, the first one closed first: its hook is in when both are closed. -/
theorem not_restored_first_in : ∃ s es,
    run step (start fun _ : Unit => ()) [.create, .create, .close 0, .close 1] = some (s, es) ∧
    (∀ p ∈ s.pipelines, p.closed = true) ∧ s.hook () = .pipeline 0 ∧ ¬ Restored (fun _ => ()) s := by
  refine ⟨_, _, rfl, ?_, rfl, fun h => ?_⟩
  · intro p hp
    rcases List.mem_cons.1 hp with rfl | hp
    · rfl
    · rw [List.mem_singleton.1 hp]
  · exact h.none 0 _ () rfl rfl rfl

/-! ## Last in, first out -/

/-- A pipeline is closed when those made after it are. -/
def LastIn (s : Process Slot Outside) (call : Call) : Prop :=
  ∀ id, call = .close id → ∀ id' p, id < id' → s.pipelines[id']? = some p → p.closed = true

/-- An open pipeline found a hook of the process, or of one that is open. -/
def Nested (hooks : Slot → Outside) (s : Process Slot Outside) : Prop :=
  ∀ (id : Nat) (p : Pipeline Slot Outside) slot, s.pipelines[id]? = some p → p.closed = false →
    p.previous slot = .outside (hooks slot) ∨
      ∃ (id' : Nat) (q : Pipeline Slot Outside), p.previous slot = .pipeline id' ∧ s.pipelines[id']? = some q ∧
        q.closed = false

theorem Nested.not_revives (h : Nested hooks s) (call : Call) : ¬ Revives s call := by
  rintro ⟨id, p, slot, found, q, rfl, hget, hopen, -, hprevious, hq, hdead⟩
  rcases h id p slot hget hopen with hout | ⟨id', q', hprevious', hq', hopen'⟩
  · rw [hprevious] at hout
    cases hout
  · rw [hprevious] at hprevious'
    cases hprevious'
    rw [hq] at hq'
    cases hq'
    rw [hdead] at hopen'
    cases hopen'

theorem Nested.create (h : Nested hooks s) (hchained : Chained hooks s) : Nested hooks s.create := by
  intro id p slot hget hopen
  have hkept : ∀ {id' : Nat} {q : Pipeline Slot Outside}, s.pipelines[id']? = some q →
      s.create.pipelines[id']? = some q := by
    intro id' q hq
    rw [Process.create, List.getElem?_append_left (List.getElem?_eq_some_iff.1 hq).1]
    exact hq
  rw [Process.create, List.getElem?_append] at hget
  by_cases hlt : id < s.pipelines.length
  · rw [if_pos hlt] at hget
    rcases h id p slot hget hopen with hout | ⟨id', q, hprevious, hq, hq'⟩
    · exact Or.inl hout
    · exact Or.inr ⟨id', q, hprevious, hkept hq, hq'⟩
  · rw [if_neg hlt] at hget
    obtain rfl := List.mem_singleton.1 (List.mem_of_getElem? hget)
    rcases hchained.live slot with hout | ⟨id', q, hin, hq, hq'⟩
    · exact Or.inl hout
    · exact Or.inr ⟨id', q, hin, hkept hq, hq'⟩

theorem Nested.close (h : Nested hooks s) (hchained : Chained hooks s) {id : Nat} {p : Pipeline Slot Outside}
    (hget : s.pipelines[id]? = some p) (hlast : LastIn s (.close id)) : Nested hooks (s.close id p) := by
  intro id' q slot hq hopen
  by_cases hid : id = id'
  · subst hid
    rw [(pipelines_close_self hget hq).2] at hopen
    cases hopen
  · rw [pipelines_close_ne p hid] at hq
    rcases h id' q slot hq hopen with hout | ⟨id'', r, hprevious, hr, hr'⟩
    · exact Or.inl hout
    · -- Had `q` found the hook of the one that is closed, it would have been closed before it.
      have hne : id ≠ id'' := by
        rintro rfl
        rcases hchained.found id' q slot hq with hout | ⟨id₁, hlt₁, hprevious₁⟩
        · rw [hprevious] at hout
          cases hout
        · rw [hprevious] at hprevious₁
          cases hprevious₁
          rw [hlast id rfl id' q hlt₁ hq] at hopen
          cases hopen
      exact Or.inr ⟨id'', r, hprevious, (pipelines_close_ne p hne).trans hr, hr'⟩

/-- **Closed in the reverse order of their creation**, the pipelines put every hook back. -/
theorem restored_of_lastIn (hooks : Slot → Outside) {calls : List Call} (h : Along LastIn step (start hooks) calls)
    {s : Process Slot Outside} {es : List Unit} (hrun : run step (start hooks) calls = some (s, es)) : Restored hooks s := by
  have hinv := run_along (P := fun s _ => Chained hooks s ∧ Nested hooks s) (fun s t call s' e hlast hs hstep => by
      obtain ⟨hchained, hnested⟩ := hs
      refine ⟨hchained.step (hnested.not_revives call) hstep, ?_⟩
      cases call with
      | create =>
        cases hstep
        exact hnested.create hchained
      | close id =>
        obtain ⟨p, hget, heq⟩ := Option.map_eq_some_iff.1 hstep
        cases heq
        exact hnested.close hchained hget hlast)
    calls (t := []) h ⟨chained_start hooks, fun id p slot hget => by cases hget⟩ hrun
  exact hinv.1.restored

end Process
end AppInsights
end Graftcode
