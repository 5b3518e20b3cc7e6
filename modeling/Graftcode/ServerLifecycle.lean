import Graftcode.Executions
/-!
# ServerLifecycle — configuring, starting and stopping a server that blocks

The lifecycle that servers with a blocking `start` share: `running_` and `stopRequested_` under one mutex, a run that
copies the configuration and works until it sees the stop, and a `stop` that waits on a condition until nothing runs.
Each section under the mutex is one step; the work of a run, `run`, reads the stop flag outside it (`reads`).
-/
namespace Graftcode
namespace Lifecycle

open Prog (emit ofExcept)

variable {ε Ev Config : Type}

inductive Event (Ev Config : Type) where
  | enter (entered : Bool)
  | copyConfig (config : Config)
  | body (event : Ev)
  | leave
  | requestStop
  | passWait
  | configure (config : Config) (accepted : Bool)

/-- The work of a start that has found the server stopped; any other returns at once. -/
def start (run : Config → Prog ε Ev Unit) : Prog ε (Event Ev Config) Unit := do
  let entered ← emit Event.enter
  if entered then
    let config ← emit Event.copyConfig
    (run config).under Event.body
    emit (fun _ : Unit => Event.leave)

def stop : Prog ε (Event Ev Config) Unit := do
  emit (fun _ : Unit => Event.requestStop)
  emit (fun _ : Unit => Event.passWait)

/-- A configuration that has been read and validated, or what was thrown before; `refused` when the server runs. -/
def configure (refused : ε) (validated : Except ε Config) : Prog ε (Event Ev Config) Unit := do
  let config ← ofExcept validated
  let accepted ← emit (Event.configure config)
  if !accepted then Prog.throw refused

inductive Operation (ε Config : Type) where
  | start
  | stop
  | configure (validated : Except ε Config)

def Operation.program (run : Config → Prog ε Ev Unit) (refused : ε) :
    Operation ε Config → Prog ε (Event Ev Config) Unit
  | .start               => Lifecycle.start run
  | .stop                => Lifecycle.stop
  | .configure validated => Lifecycle.configure refused validated

structure State (Config : Type) where
  running : Bool := false
  stopRequested : Bool := false
  config : Config

/-- A run that begins clears the stop flag in the section that sets `running_`. -/
def step [DecidableEq Config] (reads : Ev → Option Bool) (s : State Config) (_ : Nat) :
    Event Ev Config → Option (State Config)
  | .enter entered             =>
    if entered = s.running then none
    else some (if entered then { s with running := true, stopRequested := false } else s)
  | .copyConfig config         => if config = s.config then some s else none
  | .body event                => if reads event = some (!s.stopRequested) then none else some s
  | .leave                     => some { s with running := false }
  | .requestStop               => some { s with stopRequested := true }
  | .passWait                  => if s.running then none else some s
  | .configure config accepted =>
    if accepted = s.running then none else some (if accepted then { s with config := config } else s)

/-- A start that has begun a run and not ended it. -/
def Active (h : List (Event Ev Config)) : Prop := .enter true ∈ h ∧ .leave ∉ h

/-- What the lifecycle promises of a trace and the state it leads to. -/
structure Sound [DecidableEq Config] (reads : Ev → Option Bool) (run : Config → Prog ε Ev Unit) (s₀ : State Config)
    (t : List (Nat × Event Ev Config)) (s : State Config) : Prop where
  single : ∀ m n, Active (historiesOf t m) → Active (historiesOf t n) → m = n
  kept : ∀ before k after n, t = before ++ (k, .requestStop) :: after → Active (historiesOf before n) →
    Active (historiesOf t n) → s.stopRequested = true
  unchanged : ∀ before after s₁ n, t = before ++ after → replay (step reads) s₀ before = some s₁ →
    Active (historiesOf before n) → Active (historiesOf t n) → s.config = s₁.config
  waited : ∀ before k after n, t = before ++ (k, .passWait) :: after → ¬ Active (historiesOf before n)
  left : ∀ n o, (start run).Runs (ofActor n t) o → o ≠ .cut → (n, .enter true) ∈ t →
    ∃ before after s₁, t = before ++ (n, .leave) :: after ∧ ofActor n after = [] ∧
      replay (step reads) s₀ (before ++ [(n, .leave)]) = some s₁ ∧ s₁.running = false

/-! ## A call -/

def Event.body? : Event Ev Config → Option Ev
  | .body event => some event
  | _           => none

/-- The events of a call's work. -/
def bodyEvents (h : List (Event Ev Config)) : List Ev := h.filterMap Event.body?

theorem bodyEvents_map (h : List Ev) (g : List (Event Ev Config)) :
    bodyEvents (h.map .body ++ g) = h ++ bodyEvents g := by
  simp [bodyEvents, List.filterMap_append, List.filterMap_map, Function.comp_def, Event.body?]

/-- Once the work has read the flag set it goes on to read it set. -/
def Steady (reads : Ev → Option Bool) (h : List Ev) (e : Ev) : Prop :=
  ∀ seen, seen ∈ h → reads seen = some true → reads e ≠ some false

variable {reads : Ev → Option Bool} {B : List Ev → Ev → Prop}

/-- What a call relies on in a run of its own. -/
def Rely (reads : Ev → Option Bool) (h : List (Event Ev Config)) (e : Event Ev Config) : Prop :=
  ∀ event, e = .body event → Active h → Steady reads (bodyEvents h) event

/-- A call begins with its first step, and works and leaves only while it runs. -/
def Discipline (B : List Ev → Ev → Prop) (h : List (Event Ev Config)) : Event Ev Config → Prop
  | .enter _      => h = []
  | .copyConfig _ => Active h
  | .body event   => Active h ∧ B (bodyEvents h) event
  | .leave        => Active h
  | _             => True

/-- How a start ends: without an exception, and having left the run it has begun. -/
def Left (h : List (Event Ev Config)) (r : Except ε Unit) : Prop :=
  r = .ok () ∧ (.enter true ∈ h → ∃ h', h = .leave :: h')

theorem active_map_body {h : List Ev} {g : List (Event Ev Config)} (hg : Active g) : Active (h.map .body ++ g) := by
  refine ⟨List.mem_append_right _ hg.1, fun hm => ?_⟩
  rcases List.mem_append.1 hm with hm | hm
  · simp at hm
  · exact hg.2 hm

theorem safe_start {run : Config → Prog ε Ev Unit}
    (hrun : ∀ config, (run config).Safe (Steady reads) B (fun _ r => r = .ok ()) []) :
    (start run).Safe (Rely reads) (Discipline B) Left [] := by
  unfold start
  rw [Prog.safe_bind, Prog.safe_emit]
  intro entered _
  refine ⟨rfl, ?_⟩
  rw [Prog.andThen_ok]
  cases entered with
  | false => exact ⟨rfl, fun hm => by simp at hm⟩
  | true =>
    rw [if_pos rfl, Prog.safe_bind, Prog.safe_emit]
    intro config _
    have hactive : Active [.copyConfig config, (.enter true : Event Ev Config)] := ⟨by simp, by simp⟩
    refine ⟨⟨by simp, by simp⟩, ?_⟩
    rw [Prog.andThen_ok, Prog.safe_bind, Prog.safe_under]
    have hbody : ∀ h : List Ev, bodyEvents (h.map .body ++ [.copyConfig config, (.enter true : Event Ev Config)]) = h :=
      fun h => by rw [bodyEvents_map]; simp [bodyEvents, Event.body?]
    refine ((hrun config).weaken (fun h e hR => ?_) fun h e hB => ?_).mono fun h r hr => ?_
    · have hs := hR e rfl (active_map_body hactive)
      rwa [hbody] at hs
    · refine ⟨active_map_body hactive, ?_⟩
      rw [hbody]
      exact hB
    · rw [hr]
      exact fun _ _ => ⟨active_map_body hactive, rfl, fun _ => ⟨_, rfl⟩⟩

theorem safe_stop : (stop : Prog ε (Event Ev Config) Unit).Safe (Rely reads) (Discipline B) (fun _ _ => True) [] :=
  fun _ _ => ⟨trivial, fun _ _ => ⟨trivial, trivial⟩⟩

theorem safe_configure (refused : ε) (validated : Except ε Config) :
    (configure refused validated : Prog ε (Event Ev Config) Unit).Safe (Rely reads) (Discipline B)
      (fun _ _ => True) [] := by
  unfold configure
  cases validated with
  | error e => trivial
  | ok config =>
    intro accepted _
    refine ⟨trivial, ?_⟩
    cases accepted <;> trivial

theorem safe_program {run : Config → Prog ε Ev Unit} (refused : ε)
    (hrun : ∀ config, (run config).Safe (Steady reads) B (fun _ r => r = .ok ()) []) :
    ∀ op : Operation ε Config, (op.program run refused).Safe (Rely reads) (Discipline B) (fun _ _ => True) []
  | .start               => (safe_start hrun).mono fun _ _ _ => trivial
  | .stop                => safe_stop
  | .configure validated => safe_configure refused validated

/-! ## The calls together -/

/-- `running_` says whether a run is active, there is one at most, and a stop it has seen has not been cleared. -/
structure Inv (reads : Ev → Option Bool) (H : Nat → List (Event Ev Config)) (s : State Config) : Prop where
  running : s.running = true ↔ ∃ n, Active (H n)
  single : ∀ m n, Active (H m) → Active (H n) → m = n
  seen : ∀ n, Active (H n) → ∀ e ∈ bodyEvents (H n), reads e = some true → s.stopRequested = true

theorem active_cons {h : List (Event Ev Config)} {e : Event Ev Config} (henter : e ≠ .enter true) (hleave : e ≠ .leave) :
    Active (e :: h) ↔ Active h := by
  simp [Active, Ne.symm henter, Ne.symm hleave]

variable {H : Nat → List (Event Ev Config)} {s s' : State Config} {n : Nat} {e : Event Ev Config}

theorem active_update (henter : e ≠ .enter true) (hleave : e ≠ .leave) (m : Nat) :
    Active (Function.update H n (e :: H n) m) ↔ Active (H m) := by
  by_cases hm : m = n
  · subst hm
    rw [Function.update_self]
    exact active_cons henter hleave
  · rw [Function.update_of_ne hm]

/-- A step that neither begins nor ends a run, nor clears the flag while one is active. -/
theorem Inv.quiet (hI : Inv reads H s) (henter : e ≠ .enter true) (hleave : e ≠ .leave)
    (hrunning : s'.running = s.running) (hstop : s.stopRequested = true → s'.stopRequested = true)
    (hread : ∀ event, e = .body event → reads event = some true → s.stopRequested = true) :
    Inv reads (Function.update H n (e :: H n)) s' := by
  have hactive : ∀ m, Active (Function.update H n (e :: H n) m) ↔ Active (H m) := active_update henter hleave
  refine ⟨?_, fun m k hm hk => hI.single m k ((hactive m).1 hm) ((hactive k).1 hk), fun m hm event he hr => ?_⟩
  · rw [hrunning, hI.running]
    exact exists_congr fun m => (hactive m).symm
  · have hm' := (hactive m).1 hm
    by_cases hmn : m = n
    · subst hmn
      rw [Function.update_self, bodyEvents] at he
      cases hbody : e.body? with
      | none =>
        rw [List.filterMap_cons_none hbody] at he
        exact hstop (hI.seen m hm' event he hr)
      | some read =>
        rw [List.filterMap_cons_some hbody] at he
        rcases List.mem_cons.1 he with rfl | he
        · cases e <;> simp only [Event.body?, reduceCtorEq, Option.some.injEq] at hbody
          exact hstop (hread _ rfl (by rw [hbody]; exact hr))
        · exact hstop (hI.seen m hm' event he hr)
    · rw [Function.update_of_ne hmn] at he
      exact hstop (hI.seen m hm' event he hr)

theorem Inv.enter (hI : Inv reads H s) (hH : H n = []) (hidle : s.running = false) :
    Inv reads (Function.update H n (.enter true :: H n)) { s with running := true, stopRequested := false } := by
  have hnone : ∀ m, ¬ Active (H m) := fun m hm => by
    have hrunning := hI.running.2 ⟨m, hm⟩
    rw [hidle] at hrunning
    cases hrunning
  have honly : ∀ m, Active (Function.update H n (.enter true :: H n) m) → m = n := by
    intro m hm
    by_contra hmn
    rw [Function.update_of_ne hmn] at hm
    exact hnone m hm
  have hself : Active (Function.update H n (.enter true :: H n) n) := by
    rw [Function.update_self, hH]
    exact ⟨by simp, by simp⟩
  refine ⟨⟨fun _ => ⟨n, hself⟩, fun _ => rfl⟩, fun m k hm hk => (honly m hm).trans (honly k hk).symm,
    fun m hm event he _ => ?_⟩
  rw [honly m hm, Function.update_self, hH] at he
  simp [bodyEvents, Event.body?] at he

theorem Inv.leave (hI : Inv reads H s) (hH : Active (H n)) :
    Inv reads (Function.update H n (.leave :: H n)) { s with running := false } := by
  have hnone : ∀ m, ¬ Active (Function.update H n (.leave :: H n) m) := by
    intro m hm
    by_cases hmn : m = n
    · subst hmn
      rw [Function.update_self] at hm
      exact hm.2 List.mem_cons_self
    · rw [Function.update_of_ne hmn] at hm
      exact hmn (hI.single m n hm hH)
  exact ⟨⟨nofun, fun ⟨m, hm⟩ => absurd hm (hnone m)⟩, fun m _ hm => absurd hm (hnone m),
    fun m hm => absurd hm (hnone m)⟩

variable [DecidableEq Config]

theorem Inv.step (hI : Inv reads H s) (hG : Discipline B (H n) e) (hs : step reads s n e = some s') :
    Inv reads (Function.update H n (e :: H n)) s' := by
  cases e with
  | enter entered =>
    rw [Lifecycle.step, Option.ite_none_left_eq_some, Option.some.injEq] at hs
    obtain ⟨hne, rfl⟩ := hs
    cases entered with
    | true => exact hI.enter hG (by simpa using Ne.symm hne)
    | false => exact hI.quiet nofun nofun rfl id nofun
  | copyConfig config =>
    rw [Lifecycle.step, Option.ite_none_right_eq_some, Option.some.injEq] at hs
    obtain ⟨-, rfl⟩ := hs
    exact hI.quiet nofun nofun rfl id nofun
  | body event =>
    rw [Lifecycle.step, Option.ite_none_left_eq_some, Option.some.injEq] at hs
    obtain ⟨hread, rfl⟩ := hs
    refine hI.quiet nofun nofun rfl id fun event' heq hr => ?_
    cases heq
    rw [hr] at hread
    simpa using hread
  | leave =>
    cases hs
    exact hI.leave hG
  | requestStop =>
    cases hs
    exact hI.quiet nofun nofun rfl (fun _ => rfl) nofun
  | passWait =>
    rw [Lifecycle.step, Option.ite_none_left_eq_some, Option.some.injEq] at hs
    obtain ⟨-, rfl⟩ := hs
    exact hI.quiet nofun nofun rfl id nofun
  | configure config accepted =>
    rw [Lifecycle.step, Option.ite_none_left_eq_some, Option.some.injEq] at hs
    obtain ⟨-, rfl⟩ := hs
    cases accepted <;> exact hI.quiet nofun nofun rfl id nofun

/-- What a call relies on is what the invariant grants it. -/
theorem Inv.rely (hI : Inv reads H s) (hs : Lifecycle.step reads s n e = some s') : Rely reads (H n) e := by
  rintro event rfl hactive seen hm hr hread
  have hstop := hI.seen n hactive seen hm hr
  simp [Lifecycle.step, hread, hstop] at hs

/-- While a run is active no step changes the configuration or clears the flag. -/
theorem step_running (hrunning : s.running = true) (hs : Lifecycle.step reads s n e = some s') :
    s'.config = s.config ∧ (s.stopRequested = true → s'.stopRequested = true) := by
  cases e with
  | enter entered =>
    cases entered <;> simp [Lifecycle.step, hrunning] at hs
    rw [hs]
    exact ⟨rfl, id⟩
  | copyConfig config =>
    simp only [Lifecycle.step, Option.ite_none_right_eq_some, Option.some.injEq] at hs
    rw [hs.2]
    exact ⟨rfl, id⟩
  | body event =>
    simp only [Lifecycle.step, Option.ite_none_left_eq_some, Option.some.injEq] at hs
    rw [hs.2]
    exact ⟨rfl, id⟩
  | leave =>
    cases hs
    exact ⟨rfl, id⟩
  | requestStop =>
    cases hs
    exact ⟨rfl, fun _ => rfl⟩
  | passWait => simp [Lifecycle.step, hrunning] at hs
  | configure config accepted =>
    cases accepted <;> simp [Lifecycle.step, hrunning] at hs
    rw [hs]
    exact ⟨rfl, id⟩

/-! ## Runs of the system -/

section Runs

variable {run : Config → Prog ε Ev Unit} {refused : ε} {op : Nat → Operation ε Config} {config : Config}
  {t : List (Nat × Event Ev Config)}

omit [DecidableEq Config] in
theorem inv_initial (config : Config) :
    Inv reads (fun _ => []) { config, running := false, stopRequested := false } :=
  ⟨⟨nofun, fun ⟨_, hm⟩ => by simp [Active] at hm⟩, fun _ _ hm => by simp [Active] at hm,
    fun _ hm => by simp [Active] at hm⟩

/-- The invariant at the end of a run, and every call within its discipline. -/
theorem inv_of_execution (hrun : ∀ config, (run config).Safe (Steady reads) B (fun _ r => r = .ok ()) [])
    (hx : Execution (Lifecycle.step reads) (fun n => (op n).program run refused) { config } t s) :
    Inv reads (historiesOf t) s ∧ ∀ n, Prog.Admits (Rely reads) [] (ofActor n t) := by
  refine hx.invariant (I := fun t s => Inv reads (historiesOf t) s) (C := fun _ _ _ _ => True)
    (fun n => safe_program refused hrun (op n)) (inv_initial config) (fun _ _ _ _ _ hI _ hs => hI.rely hs) ?_
    (throughout_of_mem fun _ _ _ _ _ => trivial)
  intro t s n e s' hI _ hG hs
  rw [historiesOf_concat]
  exact hI.step hG hs

theorem admits_of_execution (hrun : ∀ config, (run config).Safe (Steady reads) B (fun _ r => r = .ok ()) [])
    (hx : Execution (Lifecycle.step reads) (fun n => (op n).program run refused) { config } t s) (n : Nat) :
    Prog.Admits (Discipline B) [] (ofActor n t) := by
  obtain ⟨o, ho⟩ := hx.runs n
  exact (safe_program refused hrun (op n)).admits ho ((inv_of_execution hrun hx).2 n)

/-- What a run of the system keeps to, in the history of its own work. -/
theorem body_of_execution (hrun : ∀ config, (run config).Safe (Steady reads) B (fun _ r => r = .ok ()) [])
    (hx : Execution (Lifecycle.step reads) (fun n => (op n).program run refused) { config } t s) {n : Nat} {event : Ev}
    (hm : (n, .body event) ∈ t) : ∃ h, B h event := by
  obtain ⟨before, after, ht⟩ := List.append_of_mem hm
  exact ⟨_, (discipline_at (admits_of_execution hrun hx n) ht : Discipline B _ (.body event)).2⟩

/-- Within one run, what no step changes while a run is active stays as it was. -/
theorem while_active {P : State Config → Prop}
    (hrun : ∀ config, (run config).Safe (Steady reads) B (fun _ r => r = .ok ()) [])
    (hP : ∀ s k e s', s.running = true → Lifecycle.step reads s k e = some s' → P s → P s')
    {before after : List (Nat × Event Ev Config)} {s₁ : State Config}
    (hx : Execution (Lifecycle.step reads) (fun n => (op n).program run refused) { config } (before ++ after) s)
    (hr : replay (Lifecycle.step reads) { config } before = some s₁) (hs₁ : P s₁)
    (hbefore : Active (historiesOf before n)) (hend : Active (historiesOf (before ++ after) n)) : P s := by
  have hG := admits_of_execution hrun hx
  have hkeep := hx.invariant_from
    (I := fun t s => Inv reads (historiesOf t) s ∧ .enter true ∈ historiesOf t n ∧ (Active (historiesOf t n) → P s))
    hG (fun s₂ hr₂ => ?_) fun t s k e s' hI hGe hs => ?_
  · exact hkeep.2.2 hend
  · rw [hr] at hr₂
    cases hr₂
    obtain ⟨s₂, hx₂, -⟩ := hx.before
    have hinv := (inv_of_execution hrun hx₂).1
    rw [hx₂.replays] at hr
    cases hr
    exact ⟨hinv, hbefore.1, fun _ => hs₁⟩
  · obtain ⟨hinv, henter, hPs⟩ := hI
    rw [historiesOf_concat]
    refine ⟨hinv.step hGe hs, ?_, fun hactive => ?_⟩
    · by_cases hkn : n = k
      · subst hkn
        rw [Function.update_self]
        exact List.mem_cons_of_mem _ henter
      · rwa [Function.update_of_ne hkn]
    · have hwas : Active (historiesOf t n) := by
        refine ⟨henter, fun hm => hactive.2 ?_⟩
        by_cases hkn : n = k
        · subst hkn
          rw [Function.update_self]
          exact List.mem_cons_of_mem _ hm
        · rwa [Function.update_of_ne hkn]
      exact hP s k e s' (hinv.running.2 ⟨n, hwas⟩) hs (hPs hwas)

/-- **The lifecycle is sound** for every run that answers whatever happens to it. -/
theorem sound_of_execution (hrun : ∀ config, (run config).Safe (Steady reads) B (fun _ r => r = .ok ()) [])
    (hx : Execution (Lifecycle.step reads) (fun n => (op n).program run refused) { config } t s) :
    Sound reads run { config } t s := by
  obtain ⟨hinv, hR⟩ := inv_of_execution hrun hx
  refine ⟨hinv.single, fun before k after n ht hbefore hend => ?_, fun before after s₁ n ht hr hbefore hend => ?_,
    fun before k after n ht hactive => ?_, fun n o ho hcut henter => ?_⟩
  · rw [List.append_cons] at ht
    subst ht
    obtain ⟨s₁, hx₁, -⟩ := hx.before
    obtain ⟨s₀, -, hs⟩ := replay_concat.1 hx₁.replays
    have hbegun : Active (historiesOf (before ++ [(k, .requestStop)]) n) := by
      rw [historiesOf_concat]
      exact (@active_update _ _ _ k (.requestStop) (by simp) (by simp) n).2 hbefore
    have hset : s₁.stopRequested = true := by
      cases hs
      rfl
    exact while_active (P := fun s => s.stopRequested = true) hrun (fun _ _ _ _ hr hs => (step_running hr hs).2) hx
      hx₁.replays hset hbegun hend
  · subst ht
    exact while_active (P := fun s => s.config = s₁.config) hrun
      (fun _ _ _ _ hr hs hc => (step_running hr hs).1.trans hc) hx hr rfl hbefore hend
  · rw [List.append_cons] at ht
    subst ht
    obtain ⟨s₂, hx₂, -⟩ := hx.before
    obtain ⟨s₁, hx₁, hs⟩ := hx₂.before_concat
    have hrunning := (inv_of_execution hrun hx₁).1.running.2 ⟨n, hactive⟩
    simp [Lifecycle.step, hrunning] at hs
  · have hleft : ∃ r : Except ε Unit, Left (historiesOf t n) r := by
      cases o with
      | done u => exact ⟨.ok u, by simpa [historiesOf] using (safe_start hrun).post ho (hR n)⟩
      | threw x => exact ⟨.error x, by simpa [historiesOf] using (safe_start hrun).post_threw ho (hR n)⟩
      | cut => exact absurd rfl hcut
    obtain ⟨r, -, hleave⟩ := hleft
    obtain ⟨h', hh⟩ := hleave (mem_historiesOf.2 henter)
    obtain ⟨before, after, ht, -, hafter⟩ := split_of_historiesOf (show historiesOf t n = [] ++ .leave :: h' from hh)
    rw [List.append_cons] at ht
    rw [ht] at hx
    obtain ⟨s₁, hx₁, -⟩ := hx.before
    obtain ⟨s₀, -, hs⟩ := replay_concat.1 hx₁.replays
    refine ⟨before, after, s₁, by rw [ht]; simp, hafter, hx₁.replays, ?_⟩
    cases hs
    rfl

end Runs

end Lifecycle
end Graftcode
