import Graftcode.LinkOwners
/-!
# LinkStranded — no call waits on a link that has died

RabbitMQ's `Publish` looks at `broken_` once more after `Register`, so a call past it registered before the sweep of its
link's `Disconnect`, and the sweep finished it.  Service Bus's `Send` does not look: a call that registers after the
sweep, and whose request still goes out, is left to its timeout.
-/
namespace Graftcode
namespace LinkClient

open PendingReplies (WaitResult Cell cells)

/-- A `Disconnect` of the link has finished, or its dispatcher is gone. -/
def Down (s : State) (t : List Event) (l : LinkRef) : Prop :=
  (∃ error, .failedAll l error ∈ t) ∨ (s.links l).dispatcher_ = .exited

/-- Every call past its `Publish` or `Send` on a link that is down has a finished ticket. -/
def NoneStranded (s : State) (t : List Event) : Prop :=
  ∀ c l, (s.calls c).pastPublish l → Down s t l → ∃ r, s.outcome c = some r

/-- The call registered its ticket after the sweep of the link it had obtained. -/
def Late (c : CallId) (t : List Event) : Prop :=
  ∃ pre id post l error, t = pre ++ .registered c id :: post ∧ .obtained c l ∈ pre ∧ .failedAll l error ∈ pre

/-- No `Publish` or `Send` succeeds for a late call. -/
def NoneLate (t : List Event) : Prop := ∀ pre c post, t = pre ++ .published c :: post → ¬ Late c pre

theorem Late.append {c : CallId} {t : List Event} (h : Late c t) (e : Event) : Late c (t ++ [e]) := by
  obtain ⟨pre, id, post, l, error, rfl, ho, hf⟩ := h
  exact ⟨pre, id, post ++ [e], l, error, by simp, ho, hf⟩

theorem NoneLate.init {t : List Event} {e : Event} (h : NoneLate (t ++ [e])) : NoneLate t :=
  fun pre c post ht => h pre c (post ++ [e]) (by simp [ht])

theorem noneLate_of_split (a b : List Event) (ha : ∀ l error, .failedAll l error ∉ a) (hb : ∀ c, .published c ∉ b) :
    NoneLate (a ++ b) := by
  rintro pre c post h ⟨pre', id, post', l, error, rfl, -, hf⟩
  rcases List.append_eq_append_iff.1 h with ⟨m, -, hm⟩ | ⟨m, hm, -⟩
  · exact hb c (by rw [hm]; simp)
  · exact ha l error (by rw [hm]; simp [hf])

/-! ## The flags of a link -/

/-- What `broken_` and the dispatcher of a link say about its past. -/
structure Flagged (k : Plugin) (s : State) (t : List Event) : Prop where
  swept : ∀ l error, .failedAll l error ∈ t → (s.links l).broken_ = true
  sweeping : ∀ l error inParse, (s.links l).dispatcher_ = .disconnecting error inParse → (s.links l).broken_ = true
  exited : ∀ l, (s.links l).dispatcher_ = .exited → (s.links l).stopping_ = true ∨ ∃ error, .failedAll l error ∈ t
  turned : k ≠ .serviceBus → ∀ l, (s.links l).dispatcher_ = .running → (s.links l).broken_ = true →
    ∃ error, .failedAll l error ∈ t
  obtained : ∀ c l, (s.calls c).link = some l → .obtained c l ∈ t

theorem flagged_init (k : Plugin) : Flagged k State.init [] := by
  constructor <;> simp [State.init, Call.link]

theorem Flagged.keep {k : Plugin} {s s' : State} {t : List Event} (hf : Flagged k s t) (e : Event)
    (hb : ∀ l, (s'.links l).broken_ = (s.links l).broken_)
    (hd : ∀ l, (s'.links l).dispatcher_ = (s.links l).dispatcher_)
    (hst : ∀ l, (s.links l).stopping_ = true → (s'.links l).stopping_ = true)
    (he : ∀ l error, e ≠ .failedAll l error)
    (hc : ∀ c l, (s'.calls c).link = some l → (s.calls c).link = some l ∨ e = .obtained c l) :
    Flagged k s' (t ++ [e]) := by
  obtain ⟨swept, sweeping, exited, turned, obtained⟩ := hf
  constructor <;> grind

theorem release_flags (s : State) (c : CallId) (l l' : LinkRef) :
    ((s.release c l).links l').broken_ = (s.links l').broken_ ∧
      ((s.release c l).links l').dispatcher_ = (s.links l').dispatcher_ ∧
      ((s.links l').stopping_ = true → ((s.release c l).links l').stopping_ = true) := by
  simp only [State.release]
  split <;> by_cases h : l' = l <;> simp [h, Link.drop, Link.stop]

theorem resetLink_flags (s : State) (c : CallId) (l l' : LinkRef) :
    ((s.resetLink c l).links l').broken_ = (s.links l').broken_ ∧
      ((s.resetLink c l).links l').dispatcher_ = (s.links l').dispatcher_ ∧
      ((s.links l').stopping_ = true → ((s.resetLink c l).links l').stopping_ = true) := by
  unfold State.resetLink
  split <;> by_cases h : l' = l <;> simp [h, Link.stop]

theorem flagged_step {k : Plugin} {s s' : State} {t : List Event} {e : Event} (ho : Owned s) (hf : Flagged k s t)
    (hm : Moved k s s' e) : Flagged k s' (t ++ [e]) := by
  cases hm with
  | brokenLink c l hc hl hlink hb =>
    exact hf.keep _ (fun l' => (resetLink_flags s c l l').1) (fun l' => (resetLink_flags s c l l').2.1)
      (fun l' => (resetLink_flags s c l l').2.2) (by simp) (by rw [resetLink_calls]; exact fun c l h => Or.inl h)
  | released c l hc =>
    exact hf.keep _ (fun l' => (release_flags s c l l').1) (fun l' => (release_flags s c l l').2.1)
      (fun l' => (release_flags s c l l').2.2) (by simp)
      (by intro c' l' h; rw [(release_calls s c c' l).1] at h; grind)
  | constructing c old hl hx =>
    have hfresh := ho.fresh s.made le_rfl
    exact hf.keep _ (by grind) (by grind) (by grind) (by simp) (by grind)
  | sendFailed c l error hk hc =>
    obtain ⟨swept, sweeping, exited, turned, obtained⟩ := hf
    constructor <;> grind
  | disconnected l error inParse hl hd =>
    obtain ⟨swept, sweeping, exited, turned, obtained⟩ := hf
    constructor <;> grind
  | failedAll l error inParse p e hd hp =>
    have hb := hf.sweeping l error inParse hd
    obtain ⟨swept, sweeping, exited, turned, obtained⟩ := hf
    constructor <;> grind
  | exited l hl hx =>
    obtain ⟨swept, sweeping, exited, turned, obtained⟩ := hf
    simp only [Link.mayExit] at hx
    constructor <;> grind
  | _ => exact hf.keep _ (by grind) (by grind) (by grind) (by simp) (by grind)

/-! ## Tickets of the calls in flight -/

/-- Past the check of `broken_`, the ticket still there. -/
def Call.inFlight (l : LinkRef) (call : Call) : Prop := call = .publishing l ∨ call.pastPublish l

attribute [grind =] Call.inFlight Call.pastPublish

theorem inFlight_of_moved {k : Plugin} {s s' : State} {e : Event} (hm : Moved k s s' e) {c : CallId} {l : LinkRef}
    (hc : (s'.calls c).inFlight l) :
    ((s.calls c).inFlight l ∧ e ≠ .ticketDestroyed c) ∨ (e = .checked c ∧ (s.links l).broken_ = false) ∨
      (k = .serviceBus ∧ e = .published c ∧ s.calls c = .registered l) := by
  cases hm with
  | brokenLink c' l' h => rw [resetLink_calls] at hc; exact Or.inl ⟨hc, by simp⟩
  | released c' l' h =>
    simp only [State.release] at hc
    split at hc <;> grind
  | _ => grind

theorem registered_of_moved {k : Plugin} {s s' : State} {e : Event} (hm : Moved k s s' e) {c : CallId} {l : LinkRef}
    (hc : s'.calls c = .registered l) :
    (s.calls c = .registered l ∧ e ≠ .ticketDestroyed c) ∨ (∃ id, e = .registered c id) ∧ s.calls c = .obtained l := by
  cases hm with
  | brokenLink c' l' h => rw [resetLink_calls] at hc; exact Or.inl ⟨hc, by simp⟩
  | released c' l' h =>
    simp only [State.release] at hc
    split at hc <;> grind
  | registered c' l' id slot p h hp =>
    by_cases hcc : c = c'
    · subst hcc
      have hll : Call.registered l' = Call.registered l := by simpa using hc
      cases hll
      exact Or.inr ⟨⟨id, rfl⟩, h⟩
    · exact Or.inl ⟨by simpa [hcc] using hc, by simp⟩
  | _ => grind

/-- Once its link has been swept, a call in flight has a finished ticket, and so has one that is not late. -/
structure Settled (s : State) (t : List Event) : Prop where
  flight : ∀ c l error, (s.calls c).inFlight l → .failedAll l error ∈ t → ∃ r, s.outcome c = some r
  early : ∀ c l error, s.calls c = .registered l → .failedAll l error ∈ t → Late c t ∨ ∃ r, s.outcome c = some r

theorem settled_init : Settled State.init [] := ⟨fun _ _ _ _ h => (by cases h), fun _ _ _ _ h => (by cases h)⟩

theorem settled_step {k : Plugin} {s s' : State} {t : List Event} {e : Event} (ht : Ticketed s) (ht' : Ticketed s')
    (hf : Flagged k s t) (hs : Settled s t) (hlate : k = .serviceBus → NoneLate (t ++ [e])) (hm : Moved k s s' e) :
    Settled s' (t ++ [e]) := by
  -- the sweep itself finishes every ticket
  have hnow : ∀ c l error, (s'.calls c).ticketed = true → e = .failedAll l error → ∃ r, s'.outcome c = some r := by
    intro c l error hc he
    cases hm with
    | failedAll l' error' inParse p e' hd hp =>
      have hcall : (s.calls c).ticketed = true := by simpa using hc
      have := outcome_swept ht hp hcall
      cases ho : s.outcome c with
      | none => exact ⟨_, by rw [ho] at this; exact this⟩
      | some r => exact ⟨_, by rw [ho] at this; exact this⟩
    | _ => cases he
  constructor
  case flight =>
    intro c l error hc hmem
    have htick : (s'.calls c).ticketed = true := by rcases hc with h | h | h <;> rw [h] <;> rfl
    rcases List.mem_append.1 hmem with hsw | hsw
    · rcases inFlight_of_moved hm hc with ⟨h, hd⟩ | ⟨-, hb⟩ | ⟨hk, rfl, h⟩
      · obtain ⟨r, hr⟩ := hs.flight c l error h hsw
        exact finished_step ht hm hr hd
      · rw [hf.swept l error hsw] at hb; cases hb
      · rcases hs.early c l error h hsw with hl | ⟨r, hr⟩
        · exact absurd hl (hlate hk t c [] rfl)
        · exact finished_step ht hm hr (by simp)
    · exact hnow c l error htick (List.mem_singleton.1 hsw).symm
  case early =>
    intro c l error hc hmem
    rcases List.mem_append.1 hmem with hsw | hsw
    · rcases registered_of_moved hm hc with ⟨h, hd⟩ | ⟨⟨id, rfl⟩, h⟩
      · rcases hs.early c l error h hsw with hl | ⟨r, hr⟩
        · exact Or.inl (hl.append e)
        · exact Or.inr (finished_step ht hm hr hd)
      · exact Or.inl ⟨t, id, [], l, error, rfl, hf.obtained c l (by rw [h]; rfl), hsw⟩
    · exact Or.inr (hnow c l error (by rw [hc]; rfl) (List.mem_singleton.1 hsw).symm)

/-! ## Where an outcome comes from -/

/-- The error of a sweep, or a reply that was received; a waiter moves its bytes out. -/
def Delivered (t : List Event) : WaitResult → Prop
  | .timedOut => False
  | .threw error => ∃ l, .failedAll l error ∈ t
  | .returned bytes => ∃ l id reply, .completed l id reply ∈ t ∧ (bytes = reply ∨ bytes = [])

theorem Delivered.append {t : List Event} {r : WaitResult} (h : Delivered t r) (e : Event) : Delivered (t ++ [e]) r := by
  cases r with
  | timedOut => exact h
  | threw error => obtain ⟨l, hm⟩ := h; exact ⟨l, List.mem_append_left _ hm⟩
  | returned bytes => obtain ⟨l, id, reply, hm, hb⟩ := h; exact ⟨l, id, reply, List.mem_append_left _ hm, hb⟩

theorem delivered_step {k : Plugin} {s s' : State} {t : List Event} {e : Event} (ht : Ticketed s)
    (hs : ∀ c r, s.outcome c = some r → Delivered t r) (hm : Moved k s s' e) {c : CallId} {r : WaitResult}
    (hr : s'.outcome c = some r) : Delivered (t ++ [e]) r := by
  have hb := became_of_moved ht hm c
  rw [hr] at hb
  generalize hbefore : s.outcome c = before at hb
  cases hb with
  | same => exact (hs c r hbefore).append e
  | drained r' r₀ h0 he =>
    have hd := (hs c r₀ (hbefore.trans h0)).append e
    cases r₀ with
    | timedOut => exact hd
    | threw error => exact hd
    | returned bytes =>
      obtain ⟨l, id, reply, hmem, -⟩ := hd
      exact ⟨l, id, reply, hmem, Or.inr rfl⟩
  | answered l id bytes h0 htick he => exact ⟨l, id, bytes, by simp [he], Or.inl rfl⟩
  | swept l error h0 htick he => exact ⟨l, by simp [he]⟩

/-! ## Whole runs -/

structure Tracked (k : Plugin) (s : State) (t : List Event) : Prop where
  owned : Owned s
  ticketed : Ticketed s
  flagged : Flagged k s t
  settled : (k = .serviceBus → NoneLate t) → Settled s t
  delivered : ∀ c r, s.outcome c = some r → Delivered t r

theorem tracked_run {k : Plugin} {as : List Action} {s : State} {t : List Event}
    (hrun : Machine.run (step k) State.init as = some (s, t)) : Tracked k s t := by
  have h0 : Tracked k State.init [] :=
    ⟨owned_init, ticketed_init, flagged_init k, fun _ => settled_init, fun _ _ h => (by cases h)⟩
  refine Machine.run_trace (fun s t a s' e hT hs => ?_) as h0 hrun
  have hm := moved_of_step hs
  have ht' := ticketed_step hT.owned hT.ticketed hm
  exact ⟨owned_step hT.owned hm, ht', flagged_step hT.owned hT.flagged hm, fun hlate =>
    settled_step hT.ticketed ht' hT.flagged (hT.settled fun hk => (hlate hk).init) hlate hm,
    fun c r hr => delivered_step hT.ticketed hT.delivered hm hr⟩

theorem Tracked.swept_of_down {k : Plugin} {s : State} {t : List Event} (hT : Tracked k s t) {c : CallId} {l : LinkRef}
    (hc : (s.calls c).link = some l) (hd : Down s t l) : ∃ error, .failedAll l error ∈ t := by
  rcases hd with h | h
  · exact h
  rcases hT.flagged.exited l h with hst | h
  · have hmem := (hT.owned.owner c l).1 hc
    rw [(hT.owned.stopped l hst).1] at hmem
    cases hmem
  · exact h

theorem Tracked.noneStranded {k : Plugin} {s : State} {t : List Event} (hT : Tracked k s t)
    (hlate : k = .serviceBus → NoneLate t) : NoneStranded s t := by
  intro c l hc hd
  obtain ⟨error, hsw⟩ := hT.swept_of_down (by rcases hc with h | h <;> rw [h] <;> rfl) hd
  exact (hT.settled hlate).flight c l error (Or.inr hc) hsw

theorem waited_outcome {k : Plugin} {s s' : State} {c : CallId} {r : WaitResult}
    (hs : step k s (.wait c) = some (s', .waited c r)) : r = (s.outcome c).getD .timedOut := by
  simp only [step] at hs
  split at hs
  · split at hs
    · rename_i p slot result hp
      cases hs
      exact wait_outcome hp
    · cases hs
  · cases hs

/-- **RabbitMQ: no call is stranded.**  Past `Publish` on a link that is down, every ticket is finished, by a sweep or by
a reply, so no `Wait` there runs into its timeout. -/
theorem publish_not_stranded (queue_ : Text) {as : List Action} {s : State} {t : List Event}
    (hrun : Machine.run (step (.rabbitMq queue_)) State.init as = some (s, t)) :
    (∀ c l, (s.calls c).pastPublish l → Down s t l → ∃ r, s.outcome c = some r ∧ Delivered t r) ∧
      ∀ c l s', s.calls c = .published l → Down s t l →
        step (.rabbitMq queue_) s (.wait c) ≠ some (s', .waited c .timedOut) := by
  have hT := tracked_run hrun
  have hfin : ∀ c l, (s.calls c).pastPublish l → Down s t l → ∃ r, s.outcome c = some r ∧ Delivered t r := by
    intro c l hc hd
    obtain ⟨r, hr⟩ := hT.noneStranded (by simp) c l hc hd
    exact ⟨r, hr, hT.delivered c r hr⟩
  refine ⟨hfin, fun c l s' hc hd hs => ?_⟩
  obtain ⟨r, hr, hdel⟩ := hfin c l (Or.inl hc) hd
  have := waited_outcome hs
  rw [hr, Option.getD_some] at this
  subst this
  exact hdel

/-- One call publishes, then the broker goes away. -/
def publishThenLost : List Action :=
  [.currentLink 0, .construct 0 true, .ready 0 true, .register 0 ['a'], .publish 0, .transmit 0 (.ok true),
    .disconnect 0 "RabbitMQ: connection closed by broker".toList false, .failAll 0]

theorem publish_not_stranded_lost :
    ∃ s t, Machine.run (step (.rabbitMq ['q'])) State.init publishThenLost = some (s, t) ∧ s.calls 0 = .published 0 ∧
      ∃ r, s.outcome 0 = some r ∧ Delivered t r := by
  have hrun : ∃ s t, Machine.run (step (.rabbitMq ['q'])) State.init publishThenLost = some (s, t) ∧
      s.calls 0 = .published 0 ∧ (s.links 0).dispatcher_ = .exited := ⟨_, _, rfl, rfl, rfl⟩
  obtain ⟨s, t, hr, hc, hd⟩ := hrun
  exact ⟨s, t, hr, hc, (publish_not_stranded ['q'] hr).1 0 0 (Or.inl hc) (Or.inr hd)⟩

/-- **Service Bus: no call is stranded that registered in time**: in a run whose successful sends are all of calls that
registered before their link was swept. -/
theorem send_not_stranded {as : List Action} {s : State} {t : List Event}
    (hrun : Machine.run (step .serviceBus) State.init as = some (s, t)) (hlate : NoneLate t) : NoneStranded s t :=
  (tracked_run hrun).noneStranded fun _ => hlate

/-- The receiver fails while a call is between `CurrentLink` and `Register`; the sender still works. -/
def sendAfterSweep : List Action :=
  [.currentLink 0, .construct 0 true, .ready 0 true,
    .disconnect 0 "Service Bus reply receiver failed: ".toList false, .failAll 0, .register 0 ['a'], .send 0 (.ok true)]

theorem sendAfterSweep_stranded :
    ∃ s t, Machine.run (step .serviceBus) State.init sendAfterSweep = some (s, t) ∧ ¬ NoneStranded s t := by
  have hrun : ∃ s t, Machine.run (step .serviceBus) State.init sendAfterSweep = some (s, t) ∧
      s.calls 0 = .published 0 ∧ (s.links 0).dispatcher_ = .exited ∧ s.outcome 0 = none := ⟨_, _, rfl, rfl, rfl, rfl⟩
  obtain ⟨s, t, hr, hc, hd, ho⟩ := hrun
  refine ⟨s, t, hr, fun h => ?_⟩
  obtain ⟨r, h0⟩ := h 0 0 (Or.inl hc) (Or.inr hd)
  rw [ho] at h0
  cases h0

/-- The same failure after the send. -/
def sendThenSweep : List Action :=
  [.currentLink 0, .construct 0 true, .ready 0 true, .register 0 ['a'], .send 0 (.ok true),
    .disconnect 0 "Service Bus reply receiver failed: ".toList false, .failAll 0]

theorem send_not_stranded_swept :
    ∃ s t, Machine.run (step .serviceBus) State.init sendThenSweep = some (s, t) ∧ NoneLate t ∧ NoneStranded s t := by
  have hrun : ∃ s, Machine.run (step .serviceBus) State.init sendThenSweep = some (s, [.replacing 0 none,
      .constructing 0 0, .obtained 0 0, .registered 0 ['a'], .published 0,
      .disconnected 0 "Service Bus reply receiver failed: ".toList,
      .failedAll 0 "Service Bus reply receiver failed: ".toList]) := ⟨_, rfl⟩
  obtain ⟨s, hr⟩ := hrun
  exact ⟨s, _, hr, noneLate_of_split [_, _, _, _, _] [_, _] (by simp) (by simp),
    send_not_stranded hr (noneLate_of_split [_, _, _, _, _] [_, _] (by simp) (by simp))⟩

end LinkClient
end Graftcode
