import Graftcode.LinkStranded
import Graftcode.Tracks
/-!
# LinkThreads — the dispatcher threads behind the links of a client

`LinkClient` takes what the dispatcher of a link does as actions.  Here a dispatcher is a thread whose events mean
something to its link (`Signal`), and `Thread.next` says which it may have when.  When every thread keeps to that, its
events, between whatever else happens in the client, are the actions of a run of `LinkClient`.
-/
namespace Graftcode
namespace LinkClient

/-- What an event of a dispatcher thread is to its link. -/
inductive Signal where
  | silent
  | stoppingLoaded (stopping : Bool)
  | brokenLoaded (broken : Bool)
  -- a callback of `parse` is about to run, or `parse` is left
  | parsing (inParse : Bool)
  -- what the next `Disconnect` says
  | failing (error : Text)
  | brokenStored
  | failedAll (error : Text)
  | completed (id : Text) (bytes : Bytes)
  | returned
  -- what no dispatcher does
  | foreign

/-- A dispatcher thread, as far as its link is concerned. -/
structure Thread where
  dispatcher_ : Dispatcher := .running
  -- RabbitMQ's threads alone store it
  broken : Bool := false
  -- whether `stopping_` has been seen
  stopping : Bool := false
  inParse : Bool := false
  error : Option Text := none

/-- The loop has ended, or has a reason to. -/
def Thread.mayReturn (k : Plugin) (t : Thread) : Bool :=
  t.dispatcher_ == .exited || t.dispatcher_ == .running && (t.stopping || k != .serviceBus && t.broken)

def Thread.next (k : Plugin) (t : Thread) : Signal → Option Thread
  | .silent                  => some t
  | .stoppingLoaded stopping => some { t with stopping := t.stopping || stopping }
  | .brokenLoaded _          => some t
  | .parsing inParse         => some { t with inParse := inParse }
  | .failing error           => some { t with error := some error }
  | .brokenStored            =>
    match t.error with
    | none       => none
    | some error =>
      if t.dispatcher_ = .running ∧ (if k = .serviceBus then !t.inParse else t.inParse || !t.broken) then
        some { t with dispatcher_ := .disconnecting error t.inParse, broken := true, error := none }
      else none
  | .failedAll error         =>
    match t.dispatcher_ with
    | .disconnecting error' inParse =>
      if error = error' then some { t with dispatcher_ := if inParse then .running else .exited } else none
    | _                             => none
  | .completed _ _           => if t.dispatcher_ = .running then some t else none
  | .returned                => if t.mayReturn k then some { t with dispatcher_ := .exited } else none
  | .foreign                 => none

/-- RabbitMQ's threads read `broken_` back as they stored it. -/
def Thread.Plausible (k : Plugin) (t : Thread) : Signal → Prop
  | .brokenLoaded broken => k ≠ .serviceBus → broken = t.broken
  | _                    => True

/-- The actions of the client that a signal of the thread of `l` is. -/
def Thread.actions (l : LinkRef) (t : Thread) : Signal → List Action
  | .brokenStored       =>
    match t.error with
    | none       => []
    | some error => [.disconnect l error t.inParse]
  | .failedAll _        => [.failAll l]
  | .completed id bytes => [.reply l id bytes]
  | .returned           => if t.dispatcher_ = .exited then [] else [.exit l]
  | _                   => []

/-- What happens in the client is done by a dispatcher. -/
def Event.OfDispatcher : Event → Prop
  | .completed _ _ _ | .disconnected _ _ | .failedAll _ _ | .exited _ => True
  | _                                                                 => False

/-- What happens next in a client whose dispatchers are threads. -/
inductive Item (E : Type) where
  | other (a : Action)
  | thread (l : LinkRef) (e : E)

def Item.map {E E' : Type} (f : E → E') : Item E → Item E'
  | .other a    => .other a
  | .thread l e => .thread l (f e)

/-- The events of one thread. -/
def eventsOf {E : Type} (l : LinkRef) : List (Item E) → List E
  | []                      => []
  | .other _ :: rest        => eventsOf l rest
  | .thread l' e :: rest    => if l' = l then e :: eventsOf l rest else eventsOf l rest

abbrev Threads := LinkRef → Thread

def Item.actions (ts : Threads) : Item Signal → List Action
  | .other a         => [a]
  | .thread l signal => (ts l).actions l signal

/-- The threads after an item; one that has no next state stays. -/
def Item.threads (k : Plugin) (ts : Threads) : Item Signal → Threads
  | .other _         => ts
  | .thread l signal => Function.update ts l (((ts l).next k signal).getD (ts l))

/-- The actions of the client behind a list of items. -/
def actionsOf (k : Plugin) : Threads → List (Item Signal) → List Action
  | _, []         => []
  | ts, i :: rest => i.actions ts ++ actionsOf k (i.threads k ts) rest

def threadsOf (k : Plugin) : Threads → List (Item Signal) → Threads
  | ts, []        => ts
  | ts, i :: rest => threadsOf k (i.threads k ts) rest

/-- What a thread loads is what is stored in its link. -/
def Loads (link : Link) : Signal → Prop
  | .stoppingLoaded stopping => stopping = link.stopping_
  | .brokenLoaded broken     => broken = link.broken_
  | _                        => True

/-- The client takes the item: another party does what the client lets it do, and a thread, which its link has started,
loads what is stored. -/
def Item.Taken (k : Plugin) (s : State) : Item Signal → Prop
  | .other a         => ∃ s' e, step k s a = some (s', e) ∧ ¬ e.OfDispatcher
  | .thread l signal => l < s.made ∧ Loads (s.links l) signal

/-- The items are taken one after the other, the client going on with the actions behind each of them. -/
def Joint (k : Plugin) : State → Threads → List (Item Signal) → Prop
  | _, _, []         => True
  | s, ts, i :: rest => i.Taken k s ∧
      ∀ s' es, Machine.run (step k) s (i.actions ts) = some (s', es) → Joint k s' (i.threads k ts) rest

section Joint

variable {k : Plugin} {s s' : State} {ts : Threads} {rest : List (Item Signal)}

theorem joint_other {a : Action} {e : Event} (hs : step k s a = some (s', e)) (he : ¬ e.OfDispatcher)
    (hj : Joint k s' ts rest) : Joint k s ts (.other a :: rest) := by
  refine ⟨⟨s', e, hs, he⟩, fun s₁ es hr => ?_⟩
  obtain rfl : s' = s₁ := congrArg Prod.fst (Option.some.inj ((Machine.run_singleton hs).symm.trans hr))
  exact hj

theorem joint_thread {l : LinkRef} {signal : Signal} {es : List Event} (hl : l < s.made) (hloads : Loads (s.links l) signal)
    (hr : Machine.run (step k) s ((ts l).actions l signal) = some (s', es))
    (hj : Joint k s' (Item.threads k ts (.thread l signal)) rest) : Joint k s ts (.thread l signal :: rest) := by
  refine ⟨⟨hl, hloads⟩, fun s₁ es₁ hr₁ => ?_⟩
  obtain rfl : s' = s₁ := congrArg Prod.fst (Option.some.inj (hr.symm.trans hr₁))
  exact hj

end Joint

/-! ## The client and its threads -/

/-- What the links of a client share with their threads. -/
structure Matches (k : Plugin) (s : State) (ts : Threads) : Prop where
  dispatcher_ : ∀ l, l < s.made → (s.links l).dispatcher_ = (ts l).dispatcher_
  broken_ : k ≠ .serviceBus → ∀ l, l < s.made → (s.links l).broken_ = (ts l).broken
  stopping_ : ∀ l, l < s.made → (ts l).stopping = true → (s.links l).stopping_ = true
  fresh : ∀ l, s.made ≤ l → ts l = {}

/-- What nobody but a dispatcher does to the links. -/
structure Untouched (k : Plugin) (s s' : State) : Prop where
  made : s.made ≤ s'.made
  dispatcher_ : ∀ l, l < s.made → (s'.links l).dispatcher_ = (s.links l).dispatcher_
  broken_ : k ≠ .serviceBus → ∀ l, l < s.made → (s'.links l).broken_ = (s.links l).broken_
  stopping_ : ∀ l, l < s.made → (s.links l).stopping_ = true → (s'.links l).stopping_ = true
  fresh : ∀ l, s.made ≤ l → l < s'.made → s'.links l = {}

theorem untouched_of_moved {k : Plugin} {s s' : State} {e : Event} (hm : Moved k s s' e) (he : ¬ e.OfDispatcher) :
    Untouched k s s' := by
  cases hm with
  | brokenLink c l hc hl hlink hb =>
    have hmade : (s.resetLink c l).made = s.made := by
      unfold State.resetLink
      split <;> rfl
    exact ⟨hmade.ge, fun l' _ => (resetLink_flags s c l l').2.1, fun _ l' _ => (resetLink_flags s c l l').1,
      fun l' _ => (resetLink_flags s c l l').2.2, fun l' h h' => by omega⟩
  | released c l hc =>
    have hmade : (s.release c l).made = s.made := by
      unfold State.release
      simp only
      split <;> rfl
    exact ⟨hmade.ge, fun l' _ => (release_flags s c l l').2.1, fun _ l' _ => (release_flags s c l l').1,
      fun l' _ => (release_flags s c l l').2.2, fun l' h h' => by omega⟩
  | completed l id bytes p e hl hd hp => exact absurd trivial he
  | disconnected l error inParse hl hd => exact absurd trivial he
  | failedAll l error inParse p e hd hp => exact absurd trivial he
  | exited l hl hx => exact absurd trivial he
  | _ => constructor <;> grind

theorem Matches.untouched {k : Plugin} {s s' : State} {ts : Threads} (h : Matches k s ts) (hu : Untouched k s s') :
    Matches k s' ts := by
  have hcases : ∀ l, l < s'.made → l < s.made ∨ s.made ≤ l ∧ s'.links l = {} ∧ ts l = {} := fun l hl => by
    rcases Nat.lt_or_ge l s.made with hlt | hge
    · exact Or.inl hlt
    · exact Or.inr ⟨hge, hu.fresh l hge hl, h.fresh l hge⟩
  refine ⟨fun l hl => ?_, fun hk l hl => ?_, fun l hl hstop => ?_, fun l hl => h.fresh l (hu.made.trans hl)⟩
  · rcases hcases l hl with hlt | ⟨-, hlink, hthread⟩
    · rw [hu.dispatcher_ l hlt, h.dispatcher_ l hlt]
    · rw [hlink, hthread]
  · rcases hcases l hl with hlt | ⟨-, hlink, hthread⟩
    · rw [hu.broken_ hk l hlt, h.broken_ hk l hlt]
    · rw [hlink, hthread]
  · rcases hcases l hl with hlt | ⟨-, hlink, hthread⟩
    · exact hu.stopping_ l hlt (h.stopping_ l hlt hstop)
    · rw [hthread] at hstop
      cases hstop

theorem matches_init (k : Plugin) : Matches k .init fun _ => {} :=
  ⟨fun _ h => absurd h (Nat.not_lt_zero _), fun _ _ h => absurd h (Nat.not_lt_zero _),
    fun _ h => absurd h (Nat.not_lt_zero _), fun _ _ => rfl⟩

section Signals

variable {k : Plugin} {s : State} {ts : Threads} {l : LinkRef} {t : Thread} {signal : Signal}

theorem Matches.expected (h : Matches k s ts) (hl : l < s.made) (hloads : Loads (s.links l) signal) :
    (ts l).Plausible k signal := by
  cases signal with
  | brokenLoaded broken => exact fun hk => Eq.trans hloads (h.broken_ hk l hl)
  | _                   => trivial

/-- The thread of a link goes on, and so does the link. -/
theorem Matches.update (h : Matches k s ts) (s' : State) (hl : l < s.made) (hmade : s'.made = s.made)
    (hlinks : ∀ l', l' ≠ l → s'.links l' = s.links l') (hd : (s'.links l).dispatcher_ = t.dispatcher_)
    (hb : k ≠ .serviceBus → (s'.links l).broken_ = t.broken)
    (hst : t.stopping = true → (s'.links l).stopping_ = true) : Matches k s' (Function.update ts l t) := by
  refine ⟨fun l' hl' => ?_, fun hk l' hl' => ?_, fun l' hl' hstop => ?_, fun l' hl' => ?_⟩
  · by_cases heq : l' = l
    · rw [heq, hd, Function.update_self]
    · rw [hlinks l' heq, h.dispatcher_ l' (hmade ▸ hl'), Function.update_of_ne heq]
  · by_cases heq : l' = l
    · rw [heq, hb hk, Function.update_self]
    · rw [hlinks l' heq, h.broken_ hk l' (hmade ▸ hl'), Function.update_of_ne heq]
  · by_cases heq : l' = l
    · rw [heq, Function.update_self] at hstop
      rw [heq]
      exact hst hstop
    · rw [Function.update_of_ne heq] at hstop
      rw [hlinks l' heq]
      exact h.stopping_ l' (hmade ▸ hl') hstop
  · have hne : l' ≠ l := by
      rintro rfl
      exact absurd hl (Nat.not_lt.2 (hmade ▸ hl'))
    rw [Function.update_of_ne hne, h.fresh l' (hmade ▸ hl')]

theorem Matches.setLink (h : Matches k s ts) (hl : l < s.made) {link : Link} (hd : link.dispatcher_ = t.dispatcher_)
    (hb : k ≠ .serviceBus → link.broken_ = t.broken) (hst : t.stopping = true → link.stopping_ = true) :
    Matches k (s.setLink l link) (Function.update ts l t) := by
  have hlink : (s.setLink l link).links l = link := by rw [setLink_links, if_pos rfl]
  apply h.update (s.setLink l link) hl rfl (fun l' hne => by rw [setLink_links, if_neg hne])
  · rw [hlink, hd]
  · rw [hlink]
    exact hb
  · rw [hlink]
    exact hst

theorem Matches.repend (h : Matches k s ts) (p : PendingReplies.State CallId) : Matches k { s with pending_ := p } ts :=
  ⟨h.dispatcher_, h.broken_, h.stopping_, h.fresh⟩

/-- **What a thread may do its client does.** -/
theorem Matches.signalled (h : Matches k s ts) (hl : l < s.made) (hloads : Loads (s.links l) signal)
    (hnext : (ts l).next k signal = some t) :
    ∃ s' es, Machine.run (step k) s ((ts l).actions l signal) = some (s', es) ∧
      Matches k s' (Function.update ts l t) := by
  have hd := h.dispatcher_ l hl
  have hb := fun hk => h.broken_ hk l hl
  have hst := h.stopping_ l hl
  -- a signal that is no action
  have hquiet : ∀ t : Thread, t.dispatcher_ = (ts l).dispatcher_ → t.broken = (ts l).broken →
      (t.stopping = true → (s.links l).stopping_ = true) → Matches k s (Function.update ts l t) :=
    fun t h₁ h₂ h₃ => h.update s hl rfl (fun _ _ => rfl) (hd.trans h₁.symm) (fun hk => (hb hk).trans h₂.symm) h₃
  cases signal with
  | silent => cases hnext; exact ⟨s, [], rfl, hquiet _ rfl rfl hst⟩
  | stoppingLoaded stopping =>
    cases hnext
    refine ⟨s, [], rfl, hquiet _ rfl rfl fun hstop => ?_⟩
    rcases Bool.or_eq_true_iff.1 hstop with hseen | hloaded
    · exact hst hseen
    · exact hloads ▸ hloaded
  | brokenLoaded broken => cases hnext; exact ⟨s, [], rfl, hquiet _ rfl rfl hst⟩
  | parsing inParse => cases hnext; exact ⟨s, [], rfl, hquiet _ rfl rfl hst⟩
  | failing error => cases hnext; exact ⟨s, [], rfl, hquiet _ rfl rfl hst⟩
  | brokenStored =>
    simp only [Thread.next] at hnext
    split at hnext
    · cases hnext
    · rename_i error herror
      obtain ⟨⟨hrunning, hmay⟩, hnext⟩ := Option.ite_none_right_eq_some.1 hnext
      cases hnext
      have hdisconnect : (s.links l).mayDisconnect k (ts l).inParse = true := by
        simp only [Link.mayDisconnect, hd, hrunning, beq_self_eq_true, Bool.true_and]
        split at hmay
        · rwa [if_pos ‹_›]
        · rwa [if_neg ‹_›, hb ‹_›]
      have hstep : step k s (.disconnect l error (ts l).inParse) =
          some (s.setLink l ((s.links l).disconnect k error (ts l).inParse), .disconnected l error) := by
        simp only [step]
        rw [if_pos ⟨hl, hdisconnect⟩]
      have hactions : (ts l).actions l .brokenStored = [.disconnect l error (ts l).inParse] := by
        simp only [Thread.actions, herror]
      rw [hactions]
      refine ⟨_, _, Machine.run_singleton hstep, ?_⟩
      apply h.setLink hl
      · rfl
      · exact fun _ => rfl
      · exact hst
  | failedAll error =>
    simp only [Thread.next] at hnext
    split at hnext
    · rename_i error' inParse hdisconnecting
      split at hnext
      · rename_i heq
        cases heq
        cases hnext
        have hstep : step k s (.failAll l) =
            some ({ s.setLink l { s.links l with dispatcher_ := if inParse then .running else .exited } with
              pending_ := { s.pending_ with pending := s.pending_.pending.failAll error } }, .failedAll l error) := by
          simp only [step, hd, hdisconnecting, PendingReplies.step]
        refine ⟨_, _, Machine.run_singleton hstep, Matches.repend ?_ _⟩
        apply h.setLink hl
        · rfl
        · exact hb
        · exact hst
      · cases hnext
    · cases hnext
  | foreign => cases hnext
  | completed id bytes =>
    simp only [Thread.next] at hnext
    split at hnext
    · rename_i hrunning
      cases hnext
      have hstep : step k s (.reply l id bytes) =
          some ({ s with pending_ := { s.pending_ with pending := (s.pending_.pending.complete id bytes).1 } },
            .completed l id bytes) := by
        simp only [step, PendingReplies.step]
        rw [if_pos ⟨hl, hd.trans hrunning⟩]
      exact ⟨_, _, Machine.run_singleton hstep, (hquiet (ts l) rfl rfl hst).repend _⟩
    · cases hnext
  | returned =>
    simp only [Thread.next] at hnext
    split at hnext
    · rename_i hmay
      cases hnext
      by_cases hexited : (ts l).dispatcher_ = .exited
      · refine ⟨s, [], by simp only [Thread.actions, if_pos hexited, Machine.run], ?_⟩
        exact hquiet _ hexited.symm rfl hst
      · obtain ⟨hrunning, hreason⟩ : (ts l).dispatcher_ = .running ∧
            ((ts l).stopping = true ∨ k ≠ .serviceBus ∧ (ts l).broken = true) := by
          simpa [Thread.mayReturn, hexited] using hmay
        have hexit : (s.links l).mayExit k = true := by
          simp only [Link.mayExit, hd, hrunning, beq_self_eq_true, Bool.true_and, Bool.or_eq_true, Bool.and_eq_true,
            bne_iff_ne]
          exact hreason.imp hst fun hbroken => ⟨hbroken.1, (hb hbroken.1).trans hbroken.2⟩
        have hstep : step k s (.exit l) =
            some (s.setLink l { s.links l with dispatcher_ := .exited }, .exited l) := by
          simp only [step]
          rw [if_pos ⟨hl, hexit⟩]
        have hactions : (ts l).actions l .returned = [.exit l] := by
          simp only [Thread.actions, if_neg hexited]
        rw [hactions]
        refine ⟨_, _, Machine.run_singleton hstep, ?_⟩
        apply h.setLink hl
        · rfl
        · exact hb
        · exact hst
    · cases hnext

/-- **The dispatcher threads refine the dispatchers of the client**: when each of them has only events it may have, what
happens is a run of the client, and its links are where their threads are. -/
theorem joint_run : ∀ {items : List (Item Signal)} {s : State} {ts : Threads}, Joint k s ts items → Matches k s ts →
    (∀ l, Follows (Thread.next k) (Thread.Plausible k) (ts l) (eventsOf l items)) →
      ∃ s' es, Machine.run (step k) s (actionsOf k ts items) = some (s', es) ∧ Matches k s' (threadsOf k ts items)
  | [], s, ts, _, hm, _                        => ⟨s, [], rfl, hm⟩
  | .other a :: rest, s, ts, hj, hm, hf        => by
    obtain ⟨⟨s₁, e, hstep, he⟩, hrest⟩ := hj
    have hrun := Machine.run_singleton hstep
    obtain ⟨s', es, hr, hm'⟩ := joint_run (hrest s₁ [e] hrun) (hm.untouched (untouched_of_moved (moved_of_step hstep) he))
      hf
    exact ⟨s', _, Machine.run_append hrun hr, hm'⟩
  | .thread l signal :: rest, s, ts, hj, hm, hf => by
    obtain ⟨⟨hl, hloads⟩, hrest⟩ := hj
    have hsignals : eventsOf l (.thread l signal :: rest) = signal :: eventsOf l rest := by
      simp only [eventsOf, if_true]
    have hfl := hf l
    rw [hsignals] at hfl
    obtain ⟨t, hnext, hfollows⟩ := hfl (hm.expected hl hloads)
    obtain ⟨s₁, es₁, hrun, hm₁⟩ := hm.signalled hl hloads hnext
    have hthreads : Item.threads k ts (.thread l signal) = Function.update ts l t := by
      simp only [Item.threads, hnext, Option.getD_some]
    have hj₁ := hrest s₁ es₁ hrun
    rw [hthreads] at hj₁
    obtain ⟨s', es, hr, hm'⟩ := joint_run hj₁ hm₁ fun l' => by
      by_cases heq : l' = l
      · subst heq
        rw [Function.update_self]
        exact hfollows
      · rw [Function.update_of_ne heq]
        have hother : eventsOf l' (.thread l signal :: rest) = eventsOf l' rest := by
          simp only [eventsOf, if_neg (Ne.symm heq)]
        rw [← hother]
        exact hf l'
    refine ⟨s', es₁ ++ es, ?_, ?_⟩
    · rw [actionsOf, hthreads]
      exact Machine.run_append hrun hr
    · rw [threadsOf, hthreads]
      exact hm'

end Signals

/-! ## Programs as threads -/

section Programs

variable {k : Plugin} {Ev α : Type} {signal : Ev → Signal}

/-- The thread `t` has no event it may not have while it runs the program, and leaves it in `Q`. -/
abbrev Thread.Tracks (k : Plugin) (signal : Ev → Signal) (p : Prog Exn Ev α) (Q : Thread → α → Prop) (t : Thread) :
    Prop :=
  p.Tracks (fun t e => Thread.next k t (signal e)) (fun t e => t.Plausible k (signal e)) (Prog.Ends Q) t

/-- A thread that runs a program and returns; `none` is its return. -/
def returning (p : Prog Exn Ev α) : Prog Exn (Option Ev) Unit := do
  let _ ← p.under some
  Prog.emit fun _ : Unit => none

def orReturned (signal : Ev → Signal) : Option Ev → Signal
  | some e => signal e
  | none   => .returned

theorem tracks_returning {p : Prog Exn Ev α} {t : Thread}
    (h : Thread.Tracks k signal p (fun t _ => t.mayReturn k = true) t) :
    Thread.Tracks k (orReturned signal) (returning p) (fun _ _ => True) t := by
  have hunder : (p.under some).Tracks (fun t e => Thread.next k t (orReturned signal e))
      (fun t e => t.Plausible k (orReturned signal e)) (Prog.Ends fun t _ => t.mayReturn k = true) t :=
    (Prog.tracks_under some p t).2 h
  refine hunder.bind fun t _ ht => Prog.tracks_emit fun _ _ => ⟨{ t with dispatcher_ := .exited }, ?_, trivial⟩
  simp only [orReturned, Thread.next, ht, if_true]

theorem eventsOf_map {E E' : Type} (f : E → E') (l : LinkRef) : ∀ items : List (Item E),
    eventsOf l (items.map (Item.map f)) = (eventsOf l items).map f
  | []                   => rfl
  | .other a :: rest     => eventsOf_map f l rest
  | .thread l' e :: rest => by
    have ih := eventsOf_map f l rest
    by_cases heq : l' = l
    · simp only [List.map_cons, Item.map, eventsOf, if_pos heq, ih]
    · simp only [List.map_cons, Item.map, eventsOf, if_neg heq, ih]

/-- The threads of a client run their programs between whatever else happens in it. -/
structure Execution (k : Plugin) (signal : Ev → Signal) (p : LinkRef → Prog Exn Ev α)
    (items : List (Item (Option Ev))) : Prop where
  runs : ∀ l, ∃ outcome, (returning (p l)).Runs (eventsOf l items) outcome
  joint : Joint k .init (fun _ => {}) (items.map (Item.map (orReturned signal)))

/-- What happens is a run of the client, whose links are where their threads are; no call is stranded in it, unless, with
Service Bus, it registered late. -/
def Refines (k : Plugin) (signal : Ev → Signal) (items : List (Item (Option Ev))) : Prop :=
  ∃ s es, Machine.run (step k) .init (actionsOf k (fun _ => {}) (items.map (Item.map (orReturned signal)))) = some (s, es) ∧
    Matches k s (threadsOf k (fun _ => {}) (items.map (Item.map (orReturned signal)))) ∧
    ((k = .serviceBus → NoneLate es) → NoneStranded s es)

theorem Execution.refines {p : LinkRef → Prog Exn Ev α} {items : List (Item (Option Ev))}
    (hx : Execution k signal p items)
    (hp : ∀ l, Thread.Tracks k signal (p l) (fun t _ => t.mayReturn k = true) {}) : Refines k signal items := by
  obtain ⟨s, es, hrun, hm⟩ := joint_run hx.joint (matches_init k) fun l => by
    obtain ⟨outcome, hr⟩ := hx.runs l
    rw [eventsOf_map, follows_map]
    exact (tracks_returning (hp l)).follows hr
  exact ⟨s, es, hrun, hm, fun hlate => (tracked_run hrun).noneStranded hlate⟩

end Programs

end LinkClient
end Graftcode
