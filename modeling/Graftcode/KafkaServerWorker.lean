import Graftcode.Executions
import Graftcode.KafkaServer
/-!
# KafkaServerWorker — starting and stopping the Kafka gateway from any threads

`KafkaServer::start` and `KafkaServer::stop` of `KafkaServer.cpp`, with the worker thread they share.  Every call and
every worker is an actor; the atomic exchange, the creation of the thread, its assignment to `worker_`, the test whether
it is joinable and the join are steps of their own.
-/
namespace Graftcode
namespace Kafka
namespace Worker

open Prog (emit call)

/-- A call of `start` or `stop`, or the worker that a call of `start` has created. -/
inductive Actor where
  | call (n : Nat)
  | worker (n : Nat)
  deriving DecidableEq

inductive Event where
  | exchange (desired : Bool) (was : Bool)
  | construct (result : Except Exn Unit)
  | assign
  | joinable (joinable : Bool)
  | join (result : Except Exn Unit)
  | loop (event : Kafka.Event)
  | exit

/-- `running_.exchange(true)`, and the worker when it was not set. -/
def start : Prog Exn Event Unit := do
  let was ← emit (Event.exchange true)
  if was then pure ()
  else
    call Event.construct
    emit (fun _ : Unit => Event.assign)

/-- `if (worker_.joinable()) worker_.join();`. -/
def joinWorker : Prog Exn Event Unit := do
  let joinable ← emit Event.joinable
  if joinable then call Event.join

def stop : Prog Exn Event Unit := do
  let was ← emit (Event.exchange false)
  if !was then joinWorker
  else joinWorker

/-- The thread of `[this] { loop(); }`. -/
def worker (config : KafkaServerConfig) (fuel : Nat) : Prog Exn Event Unit := do
  (Kafka.loop config fuel).under Event.loop
  emit (fun _ : Unit => Event.exit)

inductive Thread where
  | absent
  | running
  | exited
  deriving DecidableEq

/-- `running_`, `worker_` by the call that created its thread (`none` when it is not joinable), and the threads. -/
structure State where
  running : Bool := false
  worker : Option Nat := none
  threads : Nat → Thread := fun _ => .absent
  terminated : Bool := false

/-- A joinable thread that is assigned to ends the process; a join ends after the thread, or throws. -/
def effect (s : State) : Actor → Event → Option State
  | .call _, .exchange desired was      => if was = s.running then some { s with running := desired } else none
  | .call n, .construct (.ok ())        => some { s with threads := Function.update s.threads n .running }
  | .call _, .construct (.error _)      => some s
  | .call n, .assign                    =>
    if s.worker.isSome then some { s with terminated := true } else some { s with worker := some n }
  | .call _, .joinable joinable         => if joinable = s.worker.isSome then some s else none
  | .call _, .join (.ok ())             =>
    s.worker.bind fun n => if s.threads n = .exited then some { s with worker := none } else none
  | .call _, .join (.error _)           => some s
  | .worker n, .loop (.running running) => if s.threads n = .running ∧ running = s.running then some s else none
  | .worker n, .loop _                  => if s.threads n = .running then some s else none
  | .worker n, .exit                    =>
    if s.threads n = .running then some { s with threads := Function.update s.threads n .exited } else none
  | _, _                                => none

def step (s : State) (a : Actor) (e : Event) : Option State := if s.terminated then none else effect s a e

inductive Operation where
  | start
  | stop

def Operation.run : Operation → Prog Exn Event Unit
  | .start => Worker.start
  | .stop  => Worker.stop

/-- What every actor runs, when each call is one of the two. -/
def program (op : Nat → Operation) (config : KafkaServerConfig) (fuel : Nat) : Actor → Prog Exn Event Unit
  | .call n   => (op n).run
  | .worker _ => worker config fuel

/-- The server is never torn down by an assignment, has one worker at a time, and a stop that began after a start had
returned leaves none of that start's. -/
structure Sound (op : Nat → Operation) (t : List (Actor × Event)) (s : State) : Prop where
  assigned : s.terminated = false
  single : ∀ m n, s.threads m = .running → s.threads n = .running → m = n
  stopped : ∀ m n before after, t = before ++ (.call m, .assign) :: after → op n = .stop →
    ofActor (.call n) before = [] → stop.Runs (ofActor (.call n) t) (.done ()) → s.threads m ≠ .running

/-- A start that has set `running_` and has not yet assigned its thread. -/
def Starting (h : List Event) : Prop :=
  h = [.exchange true false] ∨ h = [.construct (.ok ()), .exchange true false]

/-- A start that finds the server stopped finds its worker joined, and no other start under way. -/
def InOrder (H : Actor → List Event) (s : State) (_ : Actor) (e : Event) : Prop :=
  e = .exchange true false → s.worker = none ∧ ∀ m, ¬ Starting (H (.call m))

/-! ## What the calls keep to -/

/-- Every event of a call with what the call has done before it. -/
def Discipline (op : Operation) (h : List Event) : Event → Prop
  | .exchange desired _ => h = [] ∧ (desired = true → op = .start)
  | .construct _        => h = [.exchange true false]
  | .assign             => h = [.construct (.ok ()), .exchange true false]
  | .joinable _         => ∃ was, h = [.exchange false was]
  | .join _             => ∃ was, h = [.joinable true, .exchange false was]
  | _                   => False

/-- What a call of `stop` that has returned has done. -/
def Joined (h : List Event) : Prop :=
  ∃ was, h = [.joinable false, .exchange false was] ∨ h = [.join (.ok ()), .joinable true, .exchange false was]

theorem safe_start : start.Safe (fun _ _ => True) (Discipline .start) (fun _ _ => True) [] := by
  unfold start
  rw [Prog.safe_bind, Prog.safe_emit]
  intro was _
  refine ⟨⟨rfl, fun _ => rfl⟩, ?_⟩
  rw [Prog.andThen_ok]
  cases was with
  | true => trivial
  | false =>
    rw [if_neg Bool.false_ne_true, Prog.safe_bind, Prog.safe_call]
    intro result _
    refine ⟨rfl, ?_⟩
    cases result with
    | error e => trivial
    | ok _ => exact fun _ _ => ⟨rfl, trivial⟩

theorem safe_joinWorker (was : Bool) : joinWorker.Safe (fun _ _ => True) (Discipline .stop)
    (fun h r => r = .ok () → Joined h) [.exchange false was] := by
  unfold joinWorker
  rw [Prog.safe_bind, Prog.safe_emit]
  intro joinable _
  refine ⟨⟨was, rfl⟩, ?_⟩
  rw [Prog.andThen_ok]
  cases joinable with
  | false => exact fun _ => ⟨was, .inl rfl⟩
  | true =>
    rw [if_pos rfl, Prog.safe_call]
    intro result _
    refine ⟨⟨was, rfl⟩, ?_⟩
    rintro rfl
    exact ⟨was, .inr rfl⟩

theorem safe_stop : stop.Safe (fun _ _ => True) (Discipline .stop) (fun h r => r = .ok () → Joined h) [] := by
  unfold stop
  rw [Prog.safe_bind, Prog.safe_emit]
  intro was _
  refine ⟨⟨rfl, fun h => absurd h Bool.false_ne_true⟩, ?_⟩
  rw [Prog.andThen_ok]
  cases was with
  | false => exact safe_joinWorker false
  | true => exact safe_joinWorker true

/-- The discipline of every actor; a worker may do anything a running thread can. -/
def Guarantee (op : Nat → Operation) : Actor → List Event → Event → Prop
  | .call n   => Discipline (op n)
  | .worker _ => fun _ _ => True

variable {op : Nat → Operation} {config : KafkaServerConfig} {fuel : Nat}

theorem safe_run : ∀ o : Operation, o.run.Safe (fun _ _ => True) (Discipline o) (fun _ _ => True) []
  | .start => safe_start
  | .stop  => safe_stop.mono fun _ _ _ => trivial

theorem safe_program : ∀ a : Actor,
    (program op config fuel a).Safe (fun _ _ => True) (Guarantee op a) (fun _ _ => True) []
  | .call n   => safe_run (op n)
  | .worker _ => Prog.safe_true _ _

theorem admits_program {t : List (Actor × Event)} {s : State}
    (hx : Execution step (program op config fuel) {} t s) (a : Actor) :
    Prog.Admits (Guarantee op a) [] (ofActor a t) := by
  obtain ⟨o, ho⟩ := hx.runs a
  exact (safe_program a).admits_of_keeps ho

/-! ## What a step does -/

theorem step_eq_some {s s' : State} {a : Actor} {e : Event} :
    step s a e = some s' ↔ s.terminated = false ∧ effect s a e = some s' := by
  unfold step
  cases s.terminated <;> simp

/-- The worker and the threads that were there before a step of a call, after it. -/
theorem effect_call {s s' : State} {n : Nat} {e : Event} (hs : effect s (.call n) e = some s') :
    (s'.worker = s.worker ∧ s'.threads = s.threads ∧ s'.terminated = s.terminated ∧ e ≠ .assign ∧
        e ≠ .construct (.ok ()) ∧ (∀ b, e = .joinable b → b = s.worker.isSome) ∧ e ≠ .join (.ok ())) ∨
      (e = .construct (.ok ()) ∧ s' = { s with threads := Function.update s.threads n .running }) ∨
      (e = .assign ∧ s.worker.isSome ∧ s' = { s with terminated := true }) ∨
      (e = .assign ∧ s.worker = none ∧ s' = { s with worker := some n }) ∨
      ∃ m, e = .join (.ok ()) ∧ s.worker = some m ∧ s.threads m = .exited ∧ s' = { s with worker := none } := by
  cases e with
  | exchange desired was =>
    simp only [effect, Option.ite_none_right_eq_some, Option.some.injEq] at hs
    obtain ⟨-, rfl⟩ := hs
    exact .inl ⟨rfl, rfl, rfl, nofun, nofun, nofun, nofun⟩
  | construct result =>
    match result with
    | .ok () => exact .inr (.inl ⟨rfl, (Option.some.inj hs).symm⟩)
    | .error x =>
      obtain rfl := Option.some.inj hs
      exact .inl ⟨rfl, rfl, rfl, nofun, nofun, nofun, nofun⟩
  | assign =>
    simp only [effect] at hs
    by_cases hw : s.worker.isSome = true
    · rw [if_pos hw] at hs
      exact .inr (.inr (.inl ⟨rfl, hw, (Option.some.inj hs).symm⟩))
    · rw [if_neg hw] at hs
      exact .inr (.inr (.inr (.inl ⟨rfl, by simpa using hw, (Option.some.inj hs).symm⟩)))
  | joinable joinable =>
    simp only [effect, Option.ite_none_right_eq_some, Option.some.injEq] at hs
    obtain ⟨hj, rfl⟩ := hs
    exact .inl ⟨rfl, rfl, rfl, nofun, nofun, fun b hb => by cases hb; exact hj, nofun⟩
  | join result =>
    match result with
    | .ok () =>
      simp only [effect, Option.bind_eq_some_iff, Option.ite_none_right_eq_some, Option.some.injEq] at hs
      obtain ⟨m, hm, he, rfl⟩ := hs
      exact .inr (.inr (.inr (.inr ⟨m, rfl, hm, he, rfl⟩)))
    | .error x =>
      obtain rfl := Option.some.inj hs
      exact .inl ⟨rfl, rfl, rfl, nofun, nofun, nofun, nofun⟩
  | loop e => cases hs
  | exit => cases hs

/-- A worker only ever ends its own thread. -/
theorem effect_worker {s s' : State} {n : Nat} {e : Event} (hs : effect s (.worker n) e = some s') :
    s' = s ∨ s' = { s with threads := Function.update s.threads n .exited } := by
  cases e with
  | exit =>
    simp only [effect, Option.ite_none_right_eq_some, Option.some.injEq] at hs
    exact .inr hs.2.symm
  | loop e =>
    left
    cases e <;> simp only [effect, Option.ite_none_right_eq_some, Option.some.injEq] at hs <;> exact hs.2.symm
  | _ => cases hs

/-! ## Runs in order -/

/-- Only one start is under way, while nothing is joinable, and every running worker is its or joinable. -/
structure Inv (H : Actor → List Event) (s : State) : Prop where
  alive : s.terminated = false
  joined : ∀ m, Starting (H (.call m)) → s.worker = none
  single : ∀ m n, Starting (H (.call m)) → Starting (H (.call n)) → m = n
  running : ∀ m, s.threads m = .running →
    H (.call m) = [.construct (.ok ()), .exchange true false] ∨ s.worker = some m

theorem starting_cons {h : List Event} {e : Event} :
    Starting (e :: h) ↔ e = .exchange true false ∧ h = [] ∨ e = .construct (.ok ()) ∧ h = [.exchange true false] := by
  simp [Starting]

/-- After an event of call `n`, a start under way is that call or was under way before. -/
theorem starting_update {H : Actor → List Event} {n m : Nat} {e : Event}
    (hm : Starting (Function.update H (.call n) (e :: H (.call n)) (.call m))) :
    m = n ∧ Starting (e :: H (.call n)) ∨ m ≠ n ∧ Starting (H (.call m)) := by
  by_cases hmn : m = n
  · subst hmn
    rw [Function.update_self] at hm
    exact .inl ⟨rfl, hm⟩
  · rw [Function.update_of_ne (by simpa using hmn)] at hm
    exact .inr ⟨hmn, hm⟩

theorem Inv.step_call {H : Actor → List Event} {s s' : State} {n : Nat} {e : Event} (hI : Inv H s)
    (hC : InOrder H s (.call n) e) (hG : Discipline (op n) (H (.call n)) e) (hs : effect s (.call n) e = some s') :
    Inv (Function.update H (.call n) (e :: H (.call n))) s' := by
  have hother : ∀ m, m ≠ n → Function.update H (.call n) (e :: H (.call n)) (.call m) = H (.call m) :=
    fun m hm => Function.update_of_ne (by simpa using hm) _ _
  rcases effect_call hs with ⟨hw, ht, halive, hassign, hconstruct, -, -⟩ | ⟨rfl, rfl⟩ | ⟨rfl, hw, rfl⟩ |
    ⟨rfl, hw, rfl⟩ | ⟨m, rfl, hw, hexited, rfl⟩
  · -- nothing changes hands: a start that finds the server stopped is the only one under way
    have hfirst : Starting (e :: H (.call n)) → s.worker = none ∧ ∀ m, ¬ Starting (H (.call m)) := by
      intro hst
      rcases starting_cons.1 hst with ⟨he, -⟩ | ⟨he, -⟩
      · exact hC he
      · exact absurd he hconstruct
    refine ⟨by rw [halive]; exact hI.alive, fun m hm => ?_, fun m k hm hk => ?_, fun m hm => ?_⟩
    · rw [hw]
      rcases starting_update hm with ⟨-, hst⟩ | ⟨-, hst⟩
      · exact (hfirst hst).1
      · exact hI.joined m hst
    · rcases starting_update hm with ⟨rfl, hst⟩ | ⟨-, hst⟩ <;> rcases starting_update hk with ⟨rfl, hst'⟩ | ⟨-, hst'⟩
      · rfl
      · exact absurd hst' ((hfirst hst).2 k)
      · exact absurd hst ((hfirst hst').2 m)
      · exact hI.single m k hst hst'
    · rw [ht] at hm
      rw [hw]
      rcases hI.running m hm with hh | hh
      · by_cases hmn : m = n
        · subst hmn
          rw [hh] at hG
          cases e <;> simp [Discipline] at hG hassign
        · rw [hother m hmn]
          exact .inl hh
      · exact .inr hh
  · -- the thread of a start under way
    have hh : H (.call n) = [.exchange true false] := hG
    have hst : Starting (H (.call n)) := .inl hh
    have honly : ∀ m, Starting (Function.update H (.call n) (.construct (.ok ()) :: H (.call n)) (.call m)) → m = n := by
      intro m hm
      rcases starting_update hm with ⟨hmn, -⟩ | ⟨-, hst'⟩
      · exact hmn
      · exact hI.single m n hst' hst
    refine ⟨hI.alive, fun _ _ => hI.joined n hst, fun m k hm hk => (honly m hm).trans (honly k hk).symm, fun m hm => ?_⟩
    by_cases hmn : m = n
    · subst hmn
      rw [Function.update_self, hh]
      exact .inl rfl
    · rw [hother m hmn]
      simp only [Function.update_of_ne hmn] at hm
      exact hI.running m hm
  · -- an assignment to a joinable thread: its start would still be under way
    rw [hI.joined n (.inr hG)] at hw
    cases hw
  · have hst : Starting (H (.call n)) := .inr hG
    have hnone : ∀ m, ¬ Starting (Function.update H (.call n) (.assign :: H (.call n)) (.call m)) := by
      intro m hm
      rcases starting_update hm with ⟨-, hst'⟩ | ⟨hmn, hst'⟩
      · simp [starting_cons] at hst'
      · exact hmn (hI.single m n hst' hst)
    refine ⟨hI.alive, fun m hm => absurd hm (hnone m), fun m _ hm => absurd hm (hnone m), fun m hm => ?_⟩
    rcases hI.running m hm with hh | hh
    · exact .inr (congrArg some (hI.single n m hst (.inr hh)))
    · rw [hw] at hh
      cases hh
  · have hpast : ∀ k, Starting (Function.update H (.call n) (.join (.ok ()) :: H (.call n)) (.call k)) →
        Starting (H (.call k)) := by
      intro k hk
      rcases starting_update hk with ⟨-, hst⟩ | ⟨-, hst⟩
      · simp [starting_cons] at hst
      · exact hst
    refine ⟨hI.alive, fun _ _ => rfl, fun k l hk hl => hI.single k l (hpast k hk) (hpast l hl), fun k hk => ?_⟩
    rcases hI.running k hk with hh | hh
    · by_cases hkn : k = n
      · subst hkn
        rw [hh] at hG
        simp [Discipline] at hG
      · rw [hother k hkn]
        exact .inl hh
    · rw [hw] at hh
      cases hh
      rw [hexited] at hk
      cases hk

theorem Inv.step_worker {H : Actor → List Event} {s s' : State} {n : Nat} {e : Event} (hI : Inv H s)
    (hs : effect s (.worker n) e = some s') : Inv (Function.update H (.worker n) (e :: H (.worker n))) s' := by
  have hcalls : ∀ m, Function.update H (.worker n) (e :: H (.worker n)) (.call m) = H (.call m) :=
    fun m => Function.update_of_ne (by simp) _ _
  have hkeep : ∀ t : Nat → Thread, (∀ m, t m = .running → s.threads m = .running) →
      Inv (Function.update H (.worker n) (e :: H (.worker n))) { s with threads := t } := by
    intro t ht
    refine ⟨hI.alive, fun m hm => ?_, fun m k hm hk => ?_, fun m hm => ?_⟩
    · rw [hcalls] at hm
      exact hI.joined m hm
    · rw [hcalls] at hm hk
      exact hI.single m k hm hk
    · rw [hcalls]
      exact hI.running m (ht m hm)
  rcases effect_worker hs with rfl | rfl
  · exact hkeep _ fun _ hm => hm
  · apply hkeep
    intro m hm
    by_cases hmn : m = n
    · subst hmn
      rw [Function.update_self] at hm
      cases hm
    · rwa [Function.update_of_ne hmn] at hm

theorem inv_of_inOrder {t : List (Actor × Event)} {s : State}
    (hx : Execution step (program op config fuel) {} t s) (hC : Throughout step InOrder {} t) :
    Inv (historiesOf t) s := by
  have hinit : Inv (fun _ => []) {} := ⟨rfl, by simp [Starting], by simp [Starting], nofun⟩
  refine (hx.invariant (I := fun t s => Inv (historiesOf t) s) (R := fun _ _ _ => True) safe_program hinit
    (fun _ _ _ _ _ _ _ _ => trivial) ?_ hC).1
  intro t s a e s' hI hc hG hs
  obtain ⟨-, hs⟩ := step_eq_some.1 hs
  rw [historiesOf_concat]
  cases a with
  | call n => exact hI.step_call hc hG hs
  | worker n => exact hI.step_worker hs

/-! ## A stop after a start -/

/-- A stop that has still to look for the worker or to join it. -/
def Waiting (h : List Event) : Prop :=
  h = [] ∨ ∃ was, h = [.exchange false was] ∨ h = [.joinable true, .exchange false was]

/-- Once start `m` has returned: its worker is over, or it can still be joined by stop `n`, or that stop has thrown. -/
structure Returned (m n : Nat) (H : Actor → List Event) (s : State) : Prop where
  assigned : .assign ∈ H (.call m)
  settled : s.terminated = true ∨ s.threads m = .exited ∨ s.worker = some m ∧ Waiting (H (.call n)) ∨
    ∃ x, .join (.error x) ∈ H (.call n)

theorem Waiting.step {h : List Event} {e : Event} {s : State} {m : Nat} (hh : Waiting h) (hw : s.worker = some m)
    (hG : Discipline .stop h e) (hj : ∀ b, e = .joinable b → b = s.worker.isSome) (hok : e ≠ .join (.ok ())) :
    Waiting (e :: h) ∨ ∃ x, e = .join (.error x) := by
  cases e with
  | exchange desired was =>
    obtain ⟨rfl, hd⟩ := hG
    cases desired with
    | true => cases hd rfl
    | false => exact .inl (.inr ⟨was, .inl rfl⟩)
  | construct result =>
    rcases hh with rfl | ⟨was, rfl | rfl⟩ <;> simp [Discipline] at hG
  | assign =>
    rcases hh with rfl | ⟨was, rfl | rfl⟩ <;> simp [Discipline] at hG
  | joinable b =>
    obtain ⟨was, rfl⟩ := hG
    have hb := hj b rfl
    rw [hw] at hb
    rw [hb]
    exact .inl (.inr ⟨was, .inr rfl⟩)
  | join result =>
    match result with
    | .ok () => exact absurd rfl hok
    | .error x => exact .inr ⟨x, rfl⟩
  | loop e => exact hG.elim
  | exit => exact hG.elim

theorem Returned.step_call {m n k : Nat} {H : Actor → List Event} {s s' : State} {e : Event} (hop : op n = .stop)
    (hJ : Returned m n H s) (halive : s.terminated = false) (hG : Discipline (op k) (H (.call k)) e)
    (hs : effect s (.call k) e = some s') :
    Returned m n (Function.update H (.call k) (e :: H (.call k))) s' := by
  have hgrow : ∀ j x, x ∈ H (.call j) → x ∈ Function.update H (.call k) (e :: H (.call k)) (.call j) := by
    intro j x hx
    by_cases hjk : j = k
    · subst hjk
      rw [Function.update_self]
      exact List.mem_cons_of_mem _ hx
    · rwa [Function.update_of_ne (by simpa using hjk)]
  refine ⟨hgrow m _ hJ.assigned, ?_⟩
  rcases hJ.settled with hdead | hexited | ⟨hw, hwait⟩ | ⟨x, hx⟩
  · rw [halive] at hdead
    cases hdead
  · have hkm : e = .construct (.ok ()) → k ≠ m := by
      rintro rfl rfl
      have ha := hJ.assigned
      rw [show H (.call k) = [.exchange true false] from hG] at ha
      simp at ha
    rcases effect_call hs with ⟨-, ht, -⟩ | ⟨he, rfl⟩ | ⟨-, -, rfl⟩ | ⟨-, -, rfl⟩ | ⟨_, -, -, -, rfl⟩
    · rw [ht]
      exact .inr (.inl hexited)
    · refine .inr (.inl ?_)
      simp only [Function.update_of_ne (hkm he).symm]
      exact hexited
    all_goals exact .inr (.inl hexited)
  · rcases effect_call hs with ⟨hw', ht, -, -, -, hj, hok⟩ | ⟨rfl, rfl⟩ | ⟨rfl, -, rfl⟩ | ⟨-, hnone, -⟩ |
      ⟨j, -, hj, hexited, rfl⟩
    · by_cases hkn : k = n
      · subst hkn
        rw [hop] at hG
        rw [Function.update_self, hw']
        rcases hwait.step hw hG hj hok with hwait' | ⟨x, rfl⟩
        · exact .inr (.inr (.inl ⟨hw, hwait'⟩))
        · exact .inr (.inr (.inr ⟨x, List.mem_cons_self⟩))
      · rw [Function.update_of_ne (by simpa using Ne.symm hkn), hw']
        exact .inr (.inr (.inl ⟨hw, hwait⟩))
    · have hkn : n ≠ k := by
        rintro rfl
        rw [show H (.call n) = [.exchange true false] from hG] at hwait
        simp [Waiting] at hwait
      rw [Function.update_of_ne (by simpa using hkn)]
      exact .inr (.inr (.inl ⟨hw, hwait⟩))
    · exact .inl rfl
    · rw [hw] at hnone
      cases hnone
    · rw [hw] at hj
      cases hj
      exact .inr (.inl hexited)
  · exact .inr (.inr (.inr ⟨x, hgrow n _ hx⟩))

theorem Returned.step_worker {m n k : Nat} {H : Actor → List Event} {s s' : State} {e : Event}
    (hJ : Returned m n H s) (hs : effect s (.worker k) e = some s') :
    Returned m n (Function.update H (.worker k) (e :: H (.worker k))) s' := by
  have hcalls : ∀ j, Function.update H (.worker k) (e :: H (.worker k)) (.call j) = H (.call j) :=
    fun j => Function.update_of_ne (by simp) _ _
  refine ⟨by rw [hcalls]; exact hJ.assigned, ?_⟩
  rw [hcalls]
  rcases effect_worker hs with rfl | rfl
  · exact hJ.settled
  · by_cases hmk : m = k
    · subst hmk
      exact .inr (.inl (Function.update_self ..))
    · simp only [Function.update_of_ne hmk]
      exact hJ.settled

theorem not_running_of_stopped {t before after : List (Actor × Event)} {s : State} {m n : Nat}
    (hx : Execution step (program op config fuel) {} t s) (halive : s.terminated = false)
    (ht : t = before ++ (.call m, .assign) :: after) (hop : op n = .stop) (hlater : ofActor (.call n) before = [])
    (hr : stop.Runs (ofActor (.call n) t) (.done ())) : s.threads m ≠ .running := by
  have hsplit : t = (before ++ [(.call m, .assign)]) ++ after := by rw [ht]; simp
  have hG := admits_program hx
  have hdone : Joined (historiesOf t (.call n)) := by
    have hpost := safe_stop.post hr (Prog.admits_true _ _)
    rw [List.append_nil] at hpost
    exact hpost rfl
  have hfirst : Discipline (op m) (historiesOf before (.call m)) .assign :=
    discipline_at (hG (.call m)) ht
  have hmn : n ≠ m := by
    rintro rfl
    rw [show historiesOf before (.call n) = [] by rw [historiesOf, hlater]; rfl] at hfirst
    simp [Discipline] at hfirst
  have hinit : ∀ s₁, replay step {} (before ++ [(.call m, .assign)]) = some s₁ →
      Returned m n (historiesOf (before ++ [(.call m, .assign)])) s₁ := by
    intro s₁ hr₁
    obtain ⟨s₀, -, hs⟩ := replay_concat.1 hr₁
    obtain ⟨-, hs⟩ := step_eq_some.1 hs
    rw [historiesOf_concat]
    refine ⟨by simp, ?_⟩
    rw [Function.update_of_ne (by simpa using hmn), historiesOf, hlater]
    rcases effect_call hs with ⟨-, -, -, hne, -⟩ | ⟨he, -⟩ | ⟨-, -, rfl⟩ | ⟨-, -, rfl⟩ | ⟨_, he, -⟩
    · exact absurd rfl hne
    · cases he
    · exact .inl rfl
    · exact .inr (.inr (.inl ⟨rfl, .inl rfl⟩))
    · cases he
  rw [hsplit] at hx hG
  have hJ := hx.invariant_from (I := fun t s => Returned m n (historiesOf t) s) hG hinit fun t s a e s' hJ hGa hs => by
    obtain ⟨hal, hs⟩ := step_eq_some.1 hs
    rw [historiesOf_concat]
    cases a with
    | call k => exact hJ.step_call hop hal hGa hs
    | worker k => exact hJ.step_worker hs
  rw [← hsplit] at hJ
  obtain ⟨was, hd⟩ := hdone
  rcases hJ.settled with hdead | hexited | ⟨-, hwait⟩ | ⟨x, hx'⟩
  · rw [halive] at hdead
    cases hdead
  · rw [hexited]
    intro hrunning
    cases hrunning
  · rcases hd with hd | hd <;> simp [hd, Waiting] at hwait
  · rcases hd with hd | hd <;> simp [hd] at hx'

/-! ## A start out of order -/

theorem runs_start : start.Runs [.exchange true false, .construct (.ok ()), .assign] (.done ()) :=
  Prog.runs_ask.2 ⟨false, rfl, Prog.runs_ask.2 ⟨.ok (), rfl, Prog.runs_ask.2 ⟨(), rfl, rfl, rfl⟩⟩⟩

theorem runs_stop (was : Bool) : stop.Runs [.exchange false was] .cut := by
  cases was <;> exact Prog.runs_ask.2 ⟨_, rfl, Prog.runs_ask_cut _ _⟩

/-- A start under way may go on with what comes next. -/
theorem runs_next {t : List (Actor × Event)} {s : State} {n : Nat} {e : Event}
    (hx : Execution step (program op config fuel) {} t s) (hst : Starting (historiesOf t (.call n)))
    (hnext : historiesOf t (.call n) = [.exchange true false] ∧ e = .construct (.ok ()) ∨
      historiesOf t (.call n) = [.construct (.ok ()), .exchange true false] ∧ e = .assign) :
    ∃ o, (program op config fuel (.call n)).Runs (ofActor (.call n) t ++ [e]) o := by
  have hof : ofActor (.call n) t = (historiesOf t (.call n)).reverse := by rw [historiesOf, List.reverse_reverse]
  have hop : op n = .start := by
    have hG := admits_program hx (.call n)
    rw [hof] at hG
    rcases hst with hh | hh <;> rw [hh] at hG <;> exact hG.1.2 rfl
  rw [hof, program, hop]
  rcases hnext with ⟨hh, rfl⟩ | ⟨hh, rfl⟩
  · rw [hh]
    have hr : start.Runs ([.exchange true false, .construct (.ok ())] ++ [.assign]) (.done ()) := runs_start
    exact Prog.runs_of_append hr
  · rw [hh]
    exact ⟨_, runs_start⟩

theorem step_construct {s : State} (halive : s.terminated = false) (n : Nat) :
    step s (.call n) (.construct (.ok ())) = some { s with threads := Function.update s.threads n .running } :=
  step_eq_some.2 ⟨halive, rfl⟩

theorem step_assign_joinable {s : State} (halive : s.terminated = false) (hw : s.worker.isSome = true) (n : Nat) :
    step s (.call n) .assign = some { s with terminated := true } := step_eq_some.2 ⟨halive, by simp [effect, hw]⟩

theorem step_assign {s : State} (halive : s.terminated = false) (hw : s.worker = none) (n : Nat) :
    step s (.call n) .assign = some { s with worker := some n } := step_eq_some.2 ⟨halive, by simp [effect, hw]⟩

/-- With the worker joinable, a start that has set `running_` ends the process. -/
theorem terminates_of_joinable {t : List (Actor × Event)} {s : State} {n : Nat}
    (hx : Execution step (program op config fuel) {} t s) (halive : s.terminated = false) (hw : s.worker.isSome = true)
    (hn : historiesOf t (.call n) = [.exchange true false]) :
    ∃ u s', Execution step (program op config fuel) {} (t ++ u) s' ∧ s'.terminated = true := by
  have hconstruct := hx.extend (step_construct halive n) (runs_next hx (.inl hn) (.inl ⟨hn, rfl⟩))
  have hn' : historiesOf (t ++ [(.call n, .construct (.ok ()))]) (.call n) =
      [.construct (.ok ()), .exchange true false] := by
    rw [historiesOf_concat, Function.update_self, hn]
  have hassign := hconstruct.extend (step_assign_joinable (s := { s with threads := Function.update s.threads n .running })
    halive hw n) (runs_next hconstruct (.inr hn') (.inr ⟨hn', rfl⟩))
  rw [List.append_assoc] at hassign
  exact ⟨_, _, hassign, rfl⟩

/-- Another start under way first makes the worker joinable. -/
theorem terminates_of_starting {t : List (Actor × Event)} {s : State} {m n : Nat}
    (hx : Execution step (program op config fuel) {} t s) (halive : s.terminated = false) (hmn : n ≠ m)
    (hm : historiesOf t (.call m) = [.construct (.ok ()), .exchange true false])
    (hn : historiesOf t (.call n) = [.exchange true false]) :
    ∃ u s', Execution step (program op config fuel) {} (t ++ u) s' ∧ s'.terminated = true := by
  by_cases hw : s.worker.isSome = true
  · exact terminates_of_joinable hx halive hw hn
  · have hassign := hx.extend (step_assign halive (by simpa using hw) m) (runs_next hx (.inr hm) (.inr ⟨hm, rfl⟩))
    have hn' : historiesOf (t ++ [(.call m, .assign)]) (.call n) = [.exchange true false] := by
      rw [historiesOf_concat, Function.update_of_ne (by simpa using hmn), hn]
    obtain ⟨u, s', hx', hdead⟩ := terminates_of_joinable hassign halive rfl hn'
    rw [List.append_assoc] at hx'
    exact ⟨_, s', hx', hdead⟩

theorem terminates_of_not_inOrder {t : List (Actor × Event)} {s₀ s : State} {n : Nat}
    (hr : replay step {} t = some s₀)
    (hx : Execution step (program op config fuel) {} (t ++ [(.call n, .exchange true false)]) s)
    (hC : ¬ InOrder (historiesOf t) s₀ (.call n) (.exchange true false)) :
    ∃ u s', Execution step (program op config fuel) {} (t ++ [(.call n, .exchange true false)] ++ u) s' ∧
      s'.terminated = true := by
  obtain ⟨s₁, hx₁, hs⟩ := hx.before_concat
  rw [hx₁.replays] at hr
  cases hr
  obtain ⟨halive, hs⟩ := step_eq_some.1 hs
  simp only [effect, Option.ite_none_right_eq_some, Option.some.injEq] at hs
  obtain ⟨-, rfl⟩ := hs
  have hbegins : historiesOf t (.call n) = [] :=
    (show Discipline (op n) (historiesOf t (.call n)) (.exchange true false) from
      discipline_at (admits_program hx (.call n)) rfl).1
  have hn : historiesOf (t ++ [(.call n, .exchange true false)]) (.call n) = [.exchange true false] := by
    rw [historiesOf_concat, Function.update_self, hbegins]
  by_cases hw : s₀.worker.isSome = true
  · exact terminates_of_joinable hx halive hw hn
  · obtain ⟨m, hm⟩ : ∃ m, Starting (historiesOf t (.call m)) := by
      by_contra hno
      exact hC fun _ => ⟨by simpa using hw, fun m hm => hno ⟨m, hm⟩⟩
    have hmn : n ≠ m := by
      rintro rfl
      rw [hbegins] at hm
      simp [Starting] at hm
    have hm' : historiesOf (t ++ [(.call n, .exchange true false)]) (.call m) = historiesOf t (.call m) := by
      rw [historiesOf_concat, Function.update_of_ne (by simpa using hmn.symm)]
    rcases hm with hm | hm <;> rw [← hm'] at hm
    · have hconstruct := hx.extend (step_construct (s := { s₀ with running := true }) halive m)
        (runs_next hx (.inl hm) (.inl ⟨hm, rfl⟩))
      have hm'' := congrFun (historiesOf_concat (t ++ [(Actor.call n, Event.exchange true false)]) (.call m)
        (.construct (.ok ()))) (.call m)
      have hn'' := congrFun (historiesOf_concat (t ++ [(Actor.call n, Event.exchange true false)]) (.call m)
        (.construct (.ok ()))) (.call n)
      rw [Function.update_self, hm] at hm''
      rw [Function.update_of_ne (by simpa using hmn), hn] at hn''
      obtain ⟨u, s', hx', hdead⟩ := terminates_of_starting hconstruct halive hmn hm'' hn''
      rw [List.append_assoc _ _ u] at hx'
      exact ⟨_, s', hx', hdead⟩
    · exact terminates_of_starting hx halive hmn hm hn

/-- **Starts and stops from any threads**: in a run of starts in order nothing joinable is assigned to, there is one
worker at a time, and no stop leaves the worker of a start that had returned; a start out of order can end the process. -/
theorem start_stop_sound (op : Nat → Operation) (config : KafkaServerConfig) (fuel : Nat) :
    (∀ t s, Execution step (program op config fuel) {} t s → Throughout step InOrder {} t → Sound op t s) ∧
      ∀ t s₀ s n, replay step {} t = some s₀ →
        Execution step (program op config fuel) {} (t ++ [(.call n, .exchange true false)]) s →
        ¬ InOrder (historiesOf t) s₀ (.call n) (.exchange true false) →
        ∃ u s', Execution step (program op config fuel) {} (t ++ [(.call n, .exchange true false)] ++ u) s' ∧
          ¬ Sound op (t ++ [(.call n, .exchange true false)] ++ u) s' := by
  constructor
  · intro t s hx hC
    have hI := inv_of_inOrder hx hC
    refine ⟨hI.alive, fun m n hm hn => ?_, fun m n before after ht hop hlater hr => ?_⟩
    · rcases hI.running m hm with hhm | hwm <;> rcases hI.running n hn with hhn | hwn
      · exact hI.single m n (.inr hhm) (.inr hhn)
      · rw [hI.joined m (.inr hhm)] at hwn
        cases hwn
      · rw [hI.joined n (.inr hhn)] at hwm
        cases hwm
      · rw [hwm] at hwn
        exact Option.some.inj hwn
    · exact not_running_of_stopped hx hI.alive ht hop hlater hr
  · intro t s₀ s n hr hx hC
    obtain ⟨u, s', hx', hdead⟩ := terminates_of_not_inOrder hr hx hC
    refine ⟨u, s', hx', fun hsound => ?_⟩
    rw [hsound.assigned] at hdead
    cases hdead

/-- Calls 0 and 2 start the server, call 1 stops it. -/
def restart (n : Nat) : Operation := if n = 1 then .stop else .start

def startTrace : List (Actor × Event) :=
  [(.call 0, .exchange true false), (.call 0, .construct (.ok ())), (.call 0, .assign)]

def stopTrace : List (Actor × Event) :=
  [(.call 1, .exchange false true), (.call 1, .joinable true), (.worker 0, .loop (.running false)), (.worker 0, .exit),
    (.call 1, .join (.ok ()))]

theorem runs_nil (o : Operation) : o.run.Runs [] .cut := by
  cases o <;> exact Prog.runs_ask_cut _ _

theorem runs_worker_nil (n : Nat) : (program restart {} 1 (.worker n)).Runs [] .cut := Prog.runs_ask_cut _ _

theorem startStop_execution : Execution step (program restart {} 1) {} (startTrace ++ stopTrace)
    { running := false, threads := Function.update (Function.update (fun _ => .absent) 0 .running) 0 .exited } := by
  refine ⟨rfl, fun a => ?_⟩
  match a with
  | .call 0 => exact ⟨_, runs_start⟩
  | .call 1 =>
    refine ⟨.done (), ?_⟩
    exact Prog.runs_ask.2 ⟨true, rfl, Prog.runs_ask.2 ⟨true, rfl, Prog.runs_ask.2 ⟨.ok (), rfl, rfl, rfl⟩⟩⟩
  | .call (n + 2) => exact ⟨_, runs_nil (restart (n + 2))⟩
  | .worker 0 => exact ⟨.done (), Prog.runs_ask.2 ⟨false, rfl, Prog.runs_ask.2 ⟨(), rfl, rfl, rfl⟩⟩⟩
  | .worker (n + 1) => exact ⟨_, runs_worker_nil (n + 1)⟩

theorem startStop_inOrder : Throughout step InOrder {} (startTrace ++ stopTrace) := by
  rintro before a e after s ht hr rfl
  cases before with
  | nil =>
    cases hr
    exact ⟨rfl, by simp [Starting]⟩
  | cons x before =>
    have hm : (a, Event.exchange true false) ∈ startTrace.tail ++ stopTrace := by
      have htail := congrArg List.tail ht
      simp only [List.cons_append, List.tail_cons] at htail
      rw [show startTrace.tail ++ stopTrace = (startTrace ++ stopTrace).tail from rfl, htail]
      simp
    simp [startTrace, stopTrace] at hm

/-- A start and a stop in order. -/
theorem start_stop_sound_restart : ∃ s, Sound restart (startTrace ++ stopTrace) s :=
  ⟨_, (start_stop_sound restart {} 1).1 _ _ startStop_execution startStop_inOrder⟩

/-- A stop that has not joined yet, and a start meanwhile: it assigns to the joinable thread. -/
def fatalTrace : List (Actor × Event) :=
  startTrace ++ [(.call 1, .exchange false true), (.call 2, .exchange true false), (.call 2, .construct (.ok ())),
    (.call 2, .assign)]

theorem fatal_execution : ∃ s, Execution step (program restart {} 1) {} fatalTrace s ∧ s.terminated = true := by
  refine ⟨_, ⟨rfl, fun a => ?_⟩, rfl⟩
  match a with
  | .call 0 => exact ⟨_, runs_start⟩
  | .call 1 => exact ⟨_, runs_stop true⟩
  | .call 2 => exact ⟨_, runs_start⟩
  | .call (n + 3) => exact ⟨_, runs_nil (restart (n + 3))⟩
  | .worker n => exact ⟨_, runs_worker_nil n⟩

theorem start_stop_not_sound : ¬ ∀ (op : Nat → Operation) (config : KafkaServerConfig) (fuel : Nat) t s,
    Execution step (program op config fuel) {} t s → Sound op t s := by
  intro hall
  obtain ⟨s, hx, hdead⟩ := fatal_execution
  rw [(hall restart {} 1 fatalTrace s hx).assigned] at hdead
  cases hdead

end Worker
end Kafka
end Graftcode
