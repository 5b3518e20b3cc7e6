import Graftcode.KafkaClients
import Graftcode.PendingDelivery
/-!
# KafkaIsolation — every client gets its own replies

A call returns only what a record with its own correlation id carried, a record for nobody changes nothing, and a
record for a call that waits completes it.  What carries the proof: the tickets of a client are the calls that have
registered (`PendingInv`), and a call that has registered has seen `started_` set, so no warm-up goes on (`StartInv`).
-/
namespace Graftcode
namespace Kafka
namespace Clients

open PendingReplies (WaitResult Cell cells)

/-- A call of the client waits for a reply to this id: it has registered it and still has its ticket. -/
def PendingCall (t : List (Actor × ClientEvent)) (c n : Nat) (id : Text) : Prop :=
  ∃ slot, ticketOf (historiesOf t (.call c n)) = some (id, slot)

/-- What a call of a client has been finished with. -/
def System.outcome (s : System) (c n : Nat) : Option WaitResult :=
  (cells (s.clients c).pending n).bind Cell.outcome

/-- What the clients promise of a trace, from the system's first state. -/
structure Isolated (D : Deployment) (fuel : Nat) (t : List (Actor × ClientEvent)) : Prop where
  own : ∀ c n bytes, (D.call fuel c n).Runs (ofActor (.call c n) t) (.done bytes) →
    ∃ id record, (.call c n, .newCorrelationId id) ∈ t ∧ (.broker, .publish record) ∈ t ∧
      (.dispatcher c, .consume (.record record)) ∈ t ∧ correlationIdOf record = id ∧ record.payload = bytes
  strangers : ∀ before a record after s₁ s₂, t = before ++ (a, .consume (.record record)) :: after →
    replay step {} before = some s₁ → step s₁ a (.consume (.record record)) = some s₂ → s₂.clients = s₁.clients
  unmatched : ∀ before a id payload found after s₁ s₂ c,
    t = before ++ (a, .pending (.completed id payload found)) :: after → a.client = some c →
    (∀ n, ¬ PendingCall before c n id) → replay step {} before = some s₁ →
    step s₁ a (.pending (.completed id payload found)) = some s₂ → found = false ∧ s₂.clients = s₁.clients
  apart : ∀ before a e after s₁ s₂ c, t = before ++ (a, e) :: after → a.client ≠ some c →
    replay step {} before = some s₁ → step s₁ a e = some s₂ → s₂.clients c = s₁.clients c
  warm : ∀ before c k record after, t = before ++ (.call c k, .consume (.record record)) :: after →
    ∀ n id, ¬ PendingCall before c n id
  completes : ∀ before c n record after, t = before ++ (.dispatcher c, .consume (.record record)) :: after →
    PendingCall before c n (correlationIdOf record) →
    ofActor (.dispatcher c) after = [] ∨
      ∃ mid found after' s₁ s₂,
        after = mid ++ (.dispatcher c, .pending (.completed (correlationIdOf record) record.payload found)) :: after' ∧
        ofActor (.dispatcher c) mid = [] ∧
        replay step {} (before ++ (.dispatcher c, .consume (.record record)) :: mid) = some s₁ ∧
        step s₁ (.dispatcher c) (.pending (.completed (correlationIdOf record) record.payload found)) = some s₂ ∧
        (PendingCall (before ++ (.dispatcher c, .consume (.record record)) :: mid) c n (correlationIdOf record) →
          found = true ∧ s₂.outcome c n = (s₁.outcome c n).or (some (.returned record.payload)))
  waits : ∀ before c n slot r after s₁, t = before ++ (.call c n, .pending (.waited slot r)) :: after →
    replay step {} before = some s₁ → r = (s₁.outcome c n).getD .timedOut
  kept : ∀ before a e after s₁ s₂ c n r, t = before ++ (a, e) :: after → a ≠ .call c n →
    replay step {} before = some s₁ → step s₁ a e = some s₂ → s₁.outcome c n = some r → s₂.outcome c n = some r

/-! ## What an event does to a client -/

section Effects

variable {k k' : Client} {topic : List Record} {n : Nat} {e : ClientEvent}

theorem section_eq {action : PendingReplies.Action Nat} {ev : PendingReplies.Event}
    (hk : section_ k action ev = some k') :
    ∃ p, PendingReplies.step k.pending action = some (p, ev) ∧ k' = { k with pending := p } := by
  rw [section_, Option.bind_eq_some_iff] at hk
  obtain ⟨⟨p, ev'⟩, hp, hk⟩ := hk
  simp only [Option.ite_none_right_eq_some, Option.some.injEq] at hk
  obtain ⟨rfl, rfl⟩ := hk
  exact ⟨p, hp, rfl⟩

theorem consumes_eq {consumed : Consumed} (hk : consumes k topic consumed = some k') :
    k' = k ∧ ∀ record, consumed = .record record → record ∈ topic := by
  cases consumed with
  | record record =>
    simp only [consumes, Option.ite_none_right_eq_some, Option.some.injEq] at hk
    obtain ⟨hm, rfl⟩ := hk
    refine ⟨rfl, fun record' heq => ?_⟩
    cases heq
    exact hm
  | _ =>
    cases hk
    exact ⟨rfl, by simp⟩

theorem callEffect_pending_eq (hk : callEffect k topic n e = some k') (he : ∀ ev, e ≠ .pending ev) :
    k'.pending = k.pending := by
  cases e with
  | pending ev => exact absurd rfl (he ev)
  | consume consumed => rw [(consumes_eq hk).1]
  | startDispatcher r => cases r <;> cases hk <;> rfl
  | startedLoaded started =>
    simp only [callEffect, Option.ite_none_right_eq_some, Option.some.injEq] at hk
    rw [hk.2]
  | newCorrelationId id =>
    simp only [callEffect, Option.ite_none_left_eq_some, Option.some.injEq] at hk
    rw [hk.2]
  | lockStart =>
    simp only [callEffect, Option.ite_none_left_eq_some, Option.some.injEq] at hk
    rw [← hk.2]
  | _ => cases hk <;> rfl

theorem callEffect_flags (hk : callEffect k topic n e = some k')
    (he : e ≠ .lockStart ∧ e ≠ .unlockStart ∧ e ≠ .startedStored) :
    k'.started = k.started ∧ k'.startLocked = k.startLocked := by
  cases e with
  | lockStart => exact absurd rfl he.1
  | unlockStart => exact absurd rfl he.2.1
  | startedStored => exact absurd rfl he.2.2
  | consume consumed =>
    rw [(consumes_eq hk).1]
    exact ⟨rfl, rfl⟩
  | startDispatcher r => cases r <;> cases hk <;> exact ⟨rfl, rfl⟩
  | startedLoaded started =>
    simp only [callEffect, Option.ite_none_right_eq_some, Option.some.injEq] at hk
    rw [hk.2]
    exact ⟨rfl, rfl⟩
  | newCorrelationId id =>
    simp only [callEffect, Option.ite_none_left_eq_some, Option.some.injEq] at hk
    rw [hk.2]
    exact ⟨rfl, rfl⟩
  | pending ev =>
    cases ev <;> first
      | cases hk
      | (obtain ⟨p, -, rfl⟩ := section_eq hk; exact ⟨rfl, rfl⟩)
  | _ => cases hk <;> exact ⟨rfl, rfl⟩

/-- What a thread of a client may do beside its calls: it leaves the start alone, and of `PendingReplies` it may only
take a section that reaches the tickets from outside. -/
structure Beside (k k' : Client) (e : ClientEvent) : Prop where
  start : k'.started = k.started ∧ k'.startLocked = k.startLocked
  pending : k'.pending = k.pending ∨ ∃ action ev, e = .pending ev ∧ action.finishes = true ∧
    PendingReplies.step k.pending action = some (k'.pending, ev)

theorem Beside.refl (k : Client) (e : ClientEvent) : Beside k k e := ⟨⟨rfl, rfl⟩, .inl rfl⟩

theorem Beside.of_section {action : PendingReplies.Action Nat} {ev : PendingReplies.Event}
    (hk : section_ k action ev = some k') (ha : action.finishes = true) : Beside k k' (.pending ev) := by
  obtain ⟨p, hp, rfl⟩ := section_eq hk
  exact ⟨⟨rfl, rfl⟩, .inr ⟨action, ev, rfl, ha, hp⟩⟩

theorem dispatcherEffect_beside (hk : dispatcherEffect k topic e = some k') : Beside k k' e := by
  cases e with
  | stoppingLoaded stopping =>
    simp only [dispatcherEffect, Option.ite_none_right_eq_some, Option.some.injEq] at hk
    rw [hk.2]
    exact .refl _ _
  | deliveryReport report =>
    cases hk
    exact .refl _ _
  | consume consumed =>
    rw [(consumes_eq hk).1]
    exact .refl _ _
  | pending ev =>
    cases ev with
    | completed id payload found => exact .of_section hk rfl
    | failed id error found => exact .of_section hk rfl
    | _ => cases hk
  | exit =>
    cases hk
    exact ⟨⟨rfl, rfl⟩, .inl rfl⟩
  | _ => cases hk

theorem destructorEffect_beside (hk : destructorEffect k e = some k') : Beside k k' e := by
  cases e with
  | stoppingStored =>
    cases hk
    exact ⟨⟨rfl, rfl⟩, .inl rfl⟩
  | dispatcherJoined =>
    simp only [destructorEffect, Option.ite_none_left_eq_some, Option.some.injEq] at hk
    rw [hk.2]
    exact .refl _ _
  | deliveryReport report =>
    cases hk
    exact .refl _ _
  | pending ev =>
    cases ev with
    | closed error => exact .of_section hk rfl
    | failed id error found => exact .of_section hk rfl
    | _ => cases hk
  | _ => cases hk

end Effects

/-! ## The start -/

/-- One call at a time holds the mutex, `started_` is set once a call is past the start, and not before it is stored. -/
structure StartInv (calls : Nat → List ClientEvent) (k : Client) : Prop where
  past : ∀ n, Past (calls n) → k.started = true
  locked : ∀ n, Holding (calls n) → k.startLocked = true
  sole : ∀ m n, Holding (calls m) → Holding (calls n) → m = n
  starting : ∀ n, Starting (calls n) → k.started = false

theorem StartInv.init : StartInv (fun _ => []) {} where
  past _ hp := by rcases hp with hp | hp <;> cases hp
  locked _ hh := hh.elim
  sole _ _ hh _ := hh.elim
  starting _ hs := hs.elim

section Start

variable {calls : Nat → List ClientEvent} {k k' : Client} {topic : List Record} {n : Nat} {e : ClientEvent}

theorem StartInv.of_flags (hi : StartInv calls k) (hk : k'.started = k.started ∧ k'.startLocked = k.startLocked) :
    StartInv calls k' where
  past m hp := by rw [hk.1]; exact hi.past m hp
  locked m hh := by rw [hk.2]; exact hi.locked m hh
  sole := hi.sole
  starting m hs := by rw [hk.1]; exact hi.starting m hs

/-- An event after which nobody is further than before. -/
theorem StartInv.quiet (hi : StartInv calls k) (hk : k'.started = k.started ∧ k'.startLocked = k.startLocked)
    (hpast : Past (e :: calls n) → k.started = true) (hholding : Holding (e :: calls n) → Holding (calls n))
    (hstarting : Starting (e :: calls n) → k.started = false) :
    StartInv (Function.update calls n (e :: calls n)) k' := by
  have hheld : ∀ m, Holding (Function.update calls n (e :: calls n) m) → Holding (calls m) :=
    (Function.forall_update_iff calls fun m h => Holding h → Holding (calls m)).2 ⟨hholding, fun _ _ => id⟩
  constructor
  case past =>
    rw [hk.1]
    exact (Function.forall_update_iff calls fun _ h => Past h → k.started = true).2 ⟨hpast, fun m _ => hi.past m⟩
  case locked =>
    intro m hh
    rw [hk.2]
    exact hi.locked m (hheld m hh)
  case sole => exact fun m m' hh hh' => hi.sole m m' (hheld m hh) (hheld m' hh')
  case starting =>
    rw [hk.1]
    exact (Function.forall_update_iff calls fun _ h => Starting h → k.started = false).2
      ⟨hstarting, fun m _ => hi.starting m⟩

theorem StartInv.locked_by (hi : StartInv calls k) (hfree : k.startLocked = false)
    (hk : k'.started = k.started ∧ k'.startLocked = true) :
    StartInv (Function.update calls n (.lockStart :: calls n)) k' := by
  have hnone : ∀ m, ¬ Holding (calls m) := fun m hh => by
    rw [hi.locked m hh] at hfree
    cases hfree
  have hholder : ∀ m, Holding (Function.update calls n (.lockStart :: calls n) m) → m = n :=
    (Function.forall_update_iff calls fun m h => Holding h → m = n).2
      ⟨fun _ => rfl, fun m _ hh => absurd hh (hnone m)⟩
  have hpast : Past (.lockStart :: calls n) → k.started = true := fun hp => hi.past n (hp.of_cons (by simp) (by simp))
  constructor
  case past =>
    rw [hk.1]
    exact (Function.forall_update_iff calls fun _ h => Past h → k.started = true).2 ⟨hpast, fun m _ => hi.past m⟩
  case locked => exact fun _ _ => hk.2
  case sole => exact fun m m' hh hh' => (hholder m hh).trans (hholder m' hh').symm
  case starting =>
    exact (Function.forall_update_iff calls fun _ h => Starting h → k'.started = false).2
      ⟨False.elim, fun m _ hs => absurd hs.holding (hnone m)⟩

theorem StartInv.unlocked_by (hi : StartInv calls k) (hheld : Holding (calls n)) (hk : k'.started = k.started) :
    StartInv (Function.update calls n (.unlockStart :: calls n)) k' := by
  have hnone : ∀ m, ¬ Holding (Function.update calls n (.unlockStart :: calls n) m) :=
    (Function.forall_update_iff calls fun _ h => ¬ Holding h).2 ⟨id, fun m hm hh => hm (hi.sole m n hh hheld)⟩
  have hpast : Past (.unlockStart :: calls n) → k.started = true := fun hp => hi.past n (hp.of_cons (by simp) (by simp))
  constructor
  case past =>
    rw [hk]
    exact (Function.forall_update_iff calls fun _ h => Past h → k.started = true).2 ⟨hpast, fun m _ => hi.past m⟩
  case locked => exact fun m hh => absurd hh (hnone m)
  case sole => exact fun m m' hh _ => absurd hh (hnone m)
  case starting => exact fun m hs => absurd hs.holding (hnone m)

theorem StartInv.started_by (hi : StartInv calls k) (hs : Starting (calls n))
    (hk : k'.started = true ∧ k'.startLocked = k.startLocked) :
    StartInv (Function.update calls n (.startedStored :: calls n)) k' := by
  have hholder : ∀ m, Holding (Function.update calls n (.startedStored :: calls n) m) → m = n :=
    (Function.forall_update_iff calls fun m h => Holding h → m = n).2
      ⟨fun _ => rfl, fun m _ hh => hi.sole m n hh hs.holding⟩
  constructor
  case past => exact fun _ _ => hk.1
  case locked =>
    intro m _
    rw [hk.2]
    exact hi.locked n hs.holding
  case sole => exact fun m m' hh hh' => (hholder m hh).trans (hholder m' hh').symm
  case starting =>
    exact (Function.forall_update_iff calls fun _ h => Starting h → k'.started = false).2
      ⟨False.elim, fun m hm hs' => absurd (hi.sole m n hs'.holding hs.holding) hm⟩

theorem StartInv.called (hi : StartInv calls k) (hG : CallDiscipline (calls n) e)
    (hk : callEffect k topic n e = some k') : StartInv (Function.update calls n (e :: calls n)) k' := by
  have hpast : e ≠ .startedLoaded true → e ≠ .startedStored → Past (e :: calls n) → k.started = true :=
    fun h1 h2 hp => hi.past n (hp.of_cons h1 h2)
  cases e with
  | startedLoaded started =>
    have hstarted : started = k.started := by
      simp only [callEffect, Option.ite_none_right_eq_some] at hk
      exact hk.1
    refine hi.quiet (callEffect_flags hk ⟨by simp, by simp, by simp⟩) (fun hp => ?_) id fun hs => ?_
    · cases started with
      | true => exact hstarted.symm
      | false => exact hpast (by simp) (by simp) hp
    · rw [← hstarted]
      exact hs.1
  | lockStart =>
    simp only [callEffect, Option.ite_none_left_eq_some, Option.some.injEq, Bool.not_eq_true] at hk
    obtain ⟨hfree, rfl⟩ := hk
    exact hi.locked_by hfree ⟨rfl, rfl⟩
  | unlockStart =>
    cases hk
    exact hi.unlocked_by hG rfl
  | startedStored =>
    cases hk
    exact hi.started_by hG ⟨rfl, rfl⟩
  | _ => exact hi.quiet (callEffect_flags hk ⟨by simp, by simp, by simp⟩) (hpast (by simp) (by simp)) id (hi.starting n)

end Start

/-! ## The tickets -/

/-- The tickets are those the calls have, and bytes in a slot that has not been waited on are a reply. -/
structure PendingInv (P : Text → Bytes → Prop) (calls : Nat → List ClientEvent) (p : PendingReplies.State Nat) :
    Prop where
  inv : PendingReplies.Inv p
  tickets : ∀ n, p.tickets n = (ticketOf (calls n)).map fun x => .owning x.1 x.2
  registered : ∀ n id slot, ticketOf (calls n) = some (id, slot) → Past (calls n) ∧ .newCorrelationId id ∈ calls n
  answered : ∀ n cell bytes, cells p n = some cell → cell.outcome = some (.returned bytes) →
    (∀ slot r, .pending (.waited slot r) ∉ calls n) → P cell.id bytes

theorem PendingInv.init (P : Text → Bytes → Prop) : PendingInv P (fun _ => []) .init where
  inv := PendingReplies.inv_init
  tickets _ := rfl
  registered n id slot ht := by cases ht
  answered n cell bytes hc := by cases hc

section Tickets

variable {P P' : Text → Bytes → Prop} {calls : Nat → List ClientEvent} {p p' : PendingReplies.State Nat} {n : Nat}
  {e : ClientEvent}

theorem PendingInv.mono (hP : ∀ id bytes, P id bytes → P' id bytes) (hi : PendingInv P calls p) :
    PendingInv P' calls p where
  inv := hi.inv
  tickets := hi.tickets
  registered := hi.registered
  answered n cell bytes hc ho hw := hP _ _ (hi.answered n cell bytes hc ho hw)

/-- The ticket of a cell is its call's. -/
theorem PendingInv.ticket_of_cell (hi : PendingInv P calls p) {cell : Cell} (hc : cells p n = some cell) :
    ticketOf (calls n) = some (cell.id, cell.slot) := by
  have ht := (PendingReplies.cells_eq_some.1 hc).1
  rw [hi.tickets n, Option.map_eq_some_iff] at ht
  obtain ⟨⟨id, slot⟩, hticket, heq⟩ := ht
  simp only [PendingReplies.Ticket.owning.injEq] at heq
  rw [hticket, heq.1, heq.2]

theorem PendingInv.cell_of_ticket (hi : PendingInv P calls p) {id : Text} {slot : PendingReplies.SlotRef}
    (ht : ticketOf (calls n) = some (id, slot)) : ∃ cell, cells p n = some cell ∧ cell.id = id ∧ cell.slot = slot := by
  have htickets : p.tickets n = some (.owning id slot) := by
    rw [hi.tickets n, ht]
    rfl
  have hcell : cells p n = some ⟨id, slot, (p.pending.heap[slot]?).bind PendingReplies.Slot.result⟩ :=
    PendingReplies.cells_eq_some.2 ⟨htickets, rfl⟩
  exact ⟨_, hcell, rfl, rfl⟩

/-- An event of a call: what it owes is said of the call's own ticket and cell. -/
theorem PendingInv.of_call (hi : PendingInv P calls p) (hinv : PendingReplies.Inv p')
    (htickets : p'.tickets = Function.update p.tickets n ((ticketOf (e :: calls n)).map fun x => .owning x.1 x.2))
    (hregistered : ∀ id slot, ticketOf (e :: calls n) = some (id, slot) →
      Past (e :: calls n) ∧ .newCorrelationId id ∈ e :: calls n)
    (hothers : ∀ m, m ≠ n → cells p' m = cells p m)
    (hanswered : ∀ cell bytes, cells p' n = some cell → cell.outcome = some (.returned bytes) →
      (∀ slot r, .pending (.waited slot r) ∉ e :: calls n) → P cell.id bytes) :
    PendingInv P (Function.update calls n (e :: calls n)) p' := by
  constructor
  case inv => exact hinv
  case tickets =>
    rw [htickets]
    intro m
    by_cases hm : m = n
    · subst hm
      rw [Function.update_self, Function.update_self]
    · rw [Function.update_of_ne hm, Function.update_of_ne hm]
      exact hi.tickets m
  case registered =>
    exact (Function.forall_update_iff calls fun _ h => ∀ id slot, ticketOf h = some (id, slot) →
      Past h ∧ .newCorrelationId id ∈ h).2 ⟨hregistered, fun m _ => hi.registered m⟩
  case answered =>
    apply (Function.forall_update_iff calls fun m h => ∀ cell bytes, cells p' m = some cell →
      cell.outcome = some (.returned bytes) → (∀ slot r, .pending (.waited slot r) ∉ h) → P cell.id bytes).2
    refine ⟨hanswered, fun m hm => ?_⟩
    rw [hothers m hm]
    exact hi.answered m

theorem PendingInv.quiet (hi : PendingInv P calls p) (he : ticketOf (e :: calls n) = ticketOf (calls n)) :
    PendingInv P (Function.update calls n (e :: calls n)) p := by
  refine hi.of_call hi.inv ?_ (fun id slot ht => ?_) (fun _ _ => rfl) fun cell bytes hc ho hw => ?_
  · rw [he, ← hi.tickets n, Function.update_eq_self]
  · rw [he] at ht
    obtain ⟨hpast, hid⟩ := hi.registered n id slot ht
    exact ⟨hpast.cons e, List.mem_cons_of_mem e hid⟩
  · exact hi.answered n cell bytes hc ho fun slot r hm => hw slot r (List.mem_cons_of_mem e hm)

theorem PendingInv.registered_by (hi : PendingInv P calls p) {id : Text} {slot : PendingReplies.SlotRef}
    (hG : Past (calls n) ∧ .newCorrelationId id ∈ calls n)
    (hp : PendingReplies.step p (.register n id) = some (p', .registered id slot)) :
    PendingInv P (Function.update calls n (.pending (.registered id slot) :: calls n)) p' := by
  have hcells := PendingReplies.cells_registered hi.inv hp
  refine hi.of_call (PendingReplies.inv_step hi.inv hp) (PendingReplies.tickets_registered hp) (fun id' slot' ht => ?_)
    (fun m hm => by rw [hcells, if_neg hm]) fun cell bytes hc ho _ => ?_
  · cases ht
    exact ⟨hG.1.cons _, List.mem_cons_of_mem _ hG.2⟩
  · rw [hcells, if_pos rfl] at hc
    cases hc
    cases ho

theorem PendingInv.waited_by (hi : PendingInv P calls p) {slot : PendingReplies.SlotRef} {r : WaitResult}
    (hp : PendingReplies.step p (.wait n) = some (p', .waited slot r)) :
    PendingInv P (Function.update calls n (.pending (.waited slot r) :: calls n)) p' := by
  have hcells := PendingReplies.cells_waited hi.inv hp
  refine hi.of_call (PendingReplies.inv_step hi.inv hp) ?_ (fun id' slot' ht => ?_)
    (fun m hm => by rw [hcells, if_neg hm]) fun cell bytes _ _ hw => absurd List.mem_cons_self (hw slot r)
  · have hsame : ticketOf (.pending (.waited slot r) :: calls n) = ticketOf (calls n) := rfl
    rw [(PendingReplies.wait_cell hp).1, hsame, ← hi.tickets n, Function.update_eq_self]
  · obtain ⟨hpast, hid⟩ := hi.registered n id' slot' ht
    exact ⟨hpast.cons _, List.mem_cons_of_mem _ hid⟩

theorem PendingInv.destroyed_by (hi : PendingInv P calls p)
    (hp : PendingReplies.step p (.destroy n) = some (p', .destroyed)) :
    PendingInv P (Function.update calls n (.pending .destroyed :: calls n)) p' := by
  have hcells := PendingReplies.cells_destroyed hi.inv hp
  refine hi.of_call (PendingReplies.inv_step hi.inv hp) (PendingReplies.tickets_destroyed hp) (fun id' slot' ht => ?_)
    (fun m hm => by rw [hcells, if_neg hm]) fun cell bytes hc _ _ => ?_
  · cases ht
  · rw [hcells, if_pos rfl] at hc
    cases hc

/-- An event that reaches the tickets from outside: bytes it leaves in a slot are a reply. -/
theorem PendingInv.finished_by (hi : PendingInv P calls p) {action : PendingReplies.Action Nat}
    {ev : PendingReplies.Event} (hp : PendingReplies.step p action = some (p', ev)) (ha : action.finishes = true)
    (hP : ∀ id bytes, PendingReplies.finishFor id ev = some (.returned bytes) → P id bytes) : PendingInv P calls p' := by
  obtain ⟨htickets, hcells⟩ := PendingReplies.cells_finished hi.inv hp ha
  refine ⟨PendingReplies.inv_step hi.inv hp, fun n => ?_, hi.registered, fun n cell bytes hc ho hw => ?_⟩
  · rw [htickets]
    exact hi.tickets n
  · rw [hcells, Option.map_eq_some_iff] at hc
    obtain ⟨cell₀, hc₀, rfl⟩ := hc
    rw [Cell.finish, Option.or_eq_some_iff] at ho
    rcases ho with ho | ⟨-, ho⟩
    · exact hi.answered n cell₀ bytes hc₀ ho hw
    · exact hP cell₀.id bytes ho

theorem PendingInv.called {k k' : Client} {topic : List Record} (hi : PendingInv P calls k.pending)
    (hG : CallDiscipline (calls n) e) (hk : callEffect k topic n e = some k') :
    PendingInv P (Function.update calls n (e :: calls n)) k'.pending := by
  cases e with
  | pending ev =>
    cases ev with
    | registered id slot =>
      obtain ⟨p, hp, rfl⟩ := section_eq hk
      exact hi.registered_by hG hp
    | refused id error =>
      obtain ⟨p, hp, rfl⟩ := section_eq hk
      rw [PendingReplies.refused_eq hp]
      exact hi.quiet rfl
    | waited slot r =>
      obtain ⟨p, hp, rfl⟩ := section_eq hk
      exact hi.waited_by hp
    | destroyed =>
      obtain ⟨p, hp, rfl⟩ := section_eq hk
      exact hi.destroyed_by hp
    | _ => cases hk
  | _ =>
    rw [callEffect_pending_eq hk (by simp)]
    exact hi.quiet rfl

end Tickets

/-! ## The system -/

def callsOf (t : List (Actor × ClientEvent)) (c n : Nat) : List ClientEvent := historiesOf t (.call c n)

/-- The dispatcher of a client has been given a record with this id and these bytes. -/
def Replied (t : List (Actor × ClientEvent)) (c : Nat) (id : Text) (bytes : Bytes) : Prop :=
  ∃ record, (.broker, .publish record) ∈ t ∧ (.dispatcher c, .consume (.record record)) ∈ t ∧
    correlationIdOf record = id ∧ record.payload = bytes

structure Coherent (t : List (Actor × ClientEvent)) (s : System) : Prop where
  published : ∀ record ∈ s.topic, (.broker, .publish record) ∈ t
  consumed : ∀ a record, (a, .consume (.record record)) ∈ t → (.broker, .publish record) ∈ t
  ids : ∀ a, (a, .newCorrelationId []) ∉ t
  start : ∀ c, StartInv (callsOf t c) (s.clients c)
  pending : ∀ c, PendingInv (Replied t c) (callsOf t c) (s.clients c).pending

theorem coherent_init : Coherent [] {} where
  published _ hm := by cases hm
  consumed _ _ hm := by cases hm
  ids _ hm := by cases hm
  start _ := .init
  pending _ := .init _

section System

variable {t : List (Actor × ClientEvent)} {s s' : System} {a : Actor} {e : ClientEvent} {c : Nat}

theorem callsOf_call (t : List (Actor × ClientEvent)) (c n : Nat) (e : ClientEvent) (c' : Nat) :
    callsOf (t ++ [(.call c n, e)]) c' =
      if c' = c then Function.update (callsOf t c) n (e :: callsOf t c n) else callsOf t c' := by
  funext m
  unfold callsOf
  rw [historiesOf_concat]
  by_cases hc : c' = c
  · subst hc
    rw [if_pos rfl]
    by_cases hm : m = n
    · subst hm
      rw [Function.update_self, Function.update_self]
    · have hne : Actor.call c' m ≠ .call c' n := fun h => by
        cases h
        exact hm rfl
      rw [Function.update_of_ne hm, Function.update_of_ne hne]
  · have hne : Actor.call c' m ≠ .call c n := fun h => by
      cases h
      exact hc rfl
    rw [if_neg hc, Function.update_of_ne hne]

theorem callsOf_other (ha : ∀ c n, a ≠ .call c n) : callsOf (t ++ [(a, e)]) = callsOf t := by
  funext c n
  unfold callsOf
  rw [historiesOf_concat, Function.update_of_ne (ha c n).symm]

theorem Replied.mono {u : List (Actor × ClientEvent)} {id : Text} {bytes : Bytes} (hr : Replied t c id bytes) :
    Replied (t ++ u) c id bytes := by
  obtain ⟨record, hpub, hcons, hid, hbytes⟩ := hr
  exact ⟨record, List.mem_append_left u hpub, List.mem_append_left u hcons, hid, hbytes⟩

/-- What an event may be, whoever has it. -/
theorem step_event (hs : step s a e = some s') :
    (∀ record, e = .consume (.record record) → record ∈ s.topic) ∧ e ≠ .newCorrelationId [] := by
  cases a with
  | broker =>
    cases e with
    | publish record => exact ⟨by simp, by simp⟩
    | _ => cases hs
  | call c n =>
    obtain ⟨k, hk, rfl⟩ := Option.map_eq_some_iff.1 hs
    cases e with
    | consume consumed => exact ⟨fun record heq => (consumes_eq hk).2 record (by cases heq; rfl), by simp⟩
    | newCorrelationId id =>
      simp only [callEffect, Option.ite_none_left_eq_some] at hk
      refine ⟨by simp, fun heq => hk.1 ?_⟩
      cases heq
      rfl
    | _ => exact ⟨by simp, by simp⟩
  | dispatcher c =>
    obtain ⟨k, hk, rfl⟩ := Option.map_eq_some_iff.1 hs
    cases e with
    | consume consumed => exact ⟨fun record heq => (consumes_eq hk).2 record (by cases heq; rfl), by simp⟩
    | newCorrelationId id => cases hk
    | _ => exact ⟨by simp, by simp⟩
  | destructor c =>
    obtain ⟨k, hk, rfl⟩ := Option.map_eq_some_iff.1 hs
    cases e with
    | consume consumed => cases hk
    | newCorrelationId id => cases hk
    | _ => exact ⟨by simp, by simp⟩

theorem topic_step (hs : step s a e = some s') :
    ∀ record ∈ s'.topic, record ∈ s.topic ∨ (a = .broker ∧ e = .publish record) := by
  cases a with
  | broker =>
    cases e with
    | publish record =>
      cases hs
      intro record' hm
      rcases List.mem_cons.1 hm with heq | hm
      · exact .inr ⟨rfl, by rw [heq]⟩
      · exact .inl hm
    | _ => cases hs
  | call c n =>
    obtain ⟨k, -, rfl⟩ := Option.map_eq_some_iff.1 hs
    exact fun record hm => .inl hm
  | dispatcher c =>
    obtain ⟨k, -, rfl⟩ := Option.map_eq_some_iff.1 hs
    exact fun record hm => .inl hm
  | destructor c =>
    obtain ⟨k, -, rfl⟩ := Option.map_eq_some_iff.1 hs
    exact fun record hm => .inl hm

/-- The clients keep their invariants, when the trace does what it must with the records. -/
theorem Coherent.of_clients (hI : Coherent t s) (hs : step s a e = some s')
    (hstart : ∀ c, StartInv (callsOf (t ++ [(a, e)]) c) (s'.clients c))
    (hpending : ∀ c, PendingInv (Replied (t ++ [(a, e)]) c) (callsOf (t ++ [(a, e)]) c) (s'.clients c).pending) :
    Coherent (t ++ [(a, e)]) s' where
  published record hm := by
    rcases topic_step hs record hm with hm | ⟨rfl, rfl⟩
    · exact List.mem_append_left _ (hI.published record hm)
    · exact List.mem_append_right _ List.mem_cons_self
  consumed b record hm := by
    rcases List.mem_append.1 hm with hm | hm
    · exact List.mem_append_left _ (hI.consumed b record hm)
    · have heq := List.mem_singleton.1 hm
      simp only [Prod.mk.injEq] at heq
      have htopic := (step_event hs).1 record heq.2.symm
      exact List.mem_append_left _ (hI.published record htopic)
  ids b hm := by
    rcases List.mem_append.1 hm with hm | hm
    · exact hI.ids b hm
    · have heq := List.mem_singleton.1 hm
      simp only [Prod.mk.injEq] at heq
      exact (step_event hs).2 heq.2.symm
  start := hstart
  pending := hpending

theorem coherent_call {n : Nat} (hI : Coherent t s) (hG : CallDiscipline (callsOf t c n) e)
    (hs : step s (.call c n) e = some s') : Coherent (t ++ [(.call c n, e)]) s' := by
  have hput := hs
  obtain ⟨k, hk, rfl⟩ := Option.map_eq_some_iff.1 hput
  refine hI.of_clients hs (fun c' => ?_) fun c' => ?_
  all_goals
    rw [callsOf_call]
    by_cases hc : c' = c
  · subst hc
    rw [if_pos rfl, System.put_self]
    exact (hI.start c').called hG hk
  · rw [if_neg hc, System.put_of_ne hc]
    exact hI.start c'
  · subst hc
    rw [if_pos rfl, System.put_self]
    exact ((hI.pending c').called hG hk).mono fun _ _ hr => hr.mono
  · rw [if_neg hc, System.put_of_ne hc]
    exact (hI.pending c').mono fun _ _ hr => hr.mono

/-- A thread of the client beside its calls. -/
theorem coherent_beside {k : Client} (hI : Coherent t s) (ha : ∀ c n, a ≠ .call c n)
    (hs : step s a e = some (s.put c k))
    (hk : Beside (s.clients c) k e)
    (hP : ∀ id payload found, e = .pending (.completed id payload found) → Replied t c id payload) :
    Coherent (t ++ [(a, e)]) (s.put c k) := by
  refine hI.of_clients hs (fun c' => ?_) fun c' => ?_
  all_goals
    rw [callsOf_other ha]
    by_cases hc : c' = c
  · subst hc
    rw [System.put_self]
    exact (hI.start c').of_flags hk.start
  · rw [System.put_of_ne hc]
    exact hI.start c'
  · subst hc
    rw [System.put_self]
    have hmono : PendingInv (Replied (t ++ [(a, e)]) c') (callsOf t c') (s.clients c').pending :=
      (hI.pending c').mono fun _ _ hr => hr.mono
    rcases hk.pending with heq | ⟨action, ev, rfl, ha', hp⟩
    · rw [heq]
      exact hmono
    · refine hmono.finished_by hp ha' fun id bytes hf => ?_
      obtain ⟨found, rfl⟩ := PendingReplies.finishFor_returned hf
      exact (hP id bytes found rfl).mono
  · rw [System.put_of_ne hc]
    exact (hI.pending c').mono fun _ _ hr => hr.mono

/-- A dispatcher completes what it has been given. -/
theorem Coherent.replied (hI : Coherent t s) (hG : DispatcherDiscipline (historiesOf t (.dispatcher c)) e) {id : Text}
    {payload : Bytes} {found : Bool} (he : e = .pending (.completed id payload found)) : Replied t c id payload := by
  obtain ⟨record, hhanded, hid, hpayload⟩ := hG.given id payload found he
  have hconsumed := mem_historiesOf.1 (mem_of_handed hhanded)
  exact ⟨record, hI.consumed _ record hconsumed, hconsumed, hid, hpayload⟩

theorem coherent_step (hI : Coherent t s) (hG : discipline a (historiesOf t a) e) (hs : step s a e = some s') :
    Coherent (t ++ [(a, e)]) s' := by
  cases a with
  | broker =>
    have hclients : s'.clients = s.clients := by
      cases e with
      | publish record => cases hs; rfl
      | _ => cases hs
    have hother : ∀ c n, Actor.broker ≠ .call c n := fun c n h => by cases h
    refine hI.of_clients hs (fun c => ?_) fun c => ?_
    all_goals rw [callsOf_other hother, hclients]
    · exact hI.start c
    · exact (hI.pending c).mono fun _ _ hr => hr.mono
  | call c n => exact coherent_call hI hG hs
  | dispatcher c =>
    have hput := hs
    obtain ⟨k, hk, rfl⟩ := Option.map_eq_some_iff.1 hput
    exact coherent_beside hI (by simp) hs (dispatcherEffect_beside hk) fun _ _ _ he => hI.replied hG he
  | destructor c =>
    have hput := hs
    obtain ⟨k, hk, rfl⟩ := Option.map_eq_some_iff.1 hput
    refine coherent_beside hI (by simp) hs (destructorEffect_beside hk) fun id payload found he => ?_
    rw [he] at hk
    cases hk

/-! ## What one event changes -/

theorem clients_of_consume {record : Record} (hs : step s a (.consume (.record record)) = some s') :
    s'.clients = s.clients := by
  have hsame : ∀ (c : Nat) (k : Client), consumes (s.clients c) s.topic (.record record) = some k →
      (s.put c k).clients = s.clients := by
    intro c k hk
    obtain ⟨rfl, -⟩ := consumes_eq hk
    exact Function.update_eq_self c s.clients
  cases a with
  | broker => cases hs
  | call c n =>
    obtain ⟨k, hk, rfl⟩ := Option.map_eq_some_iff.1 hs
    exact hsame c k hk
  | dispatcher c =>
    obtain ⟨k, hk, rfl⟩ := Option.map_eq_some_iff.1 hs
    exact hsame c k hk
  | destructor c => cases hs

theorem clients_of_apart (ha : a.client ≠ some c) (hs : step s a e = some s') : s'.clients c = s.clients c := by
  have hput : ∀ (c' : Nat) (k : Client), a.client = some c' → (s.put c' k).clients c = s.clients c := by
    intro c' k hc'
    refine System.put_of_ne fun h => ha ?_
    rw [h, hc']
  cases a with
  | broker =>
    cases e with
    | publish record => cases hs; rfl
    | _ => cases hs
  | call c' n =>
    obtain ⟨k, -, rfl⟩ := Option.map_eq_some_iff.1 hs
    exact hput c' k rfl
  | dispatcher c' =>
    obtain ⟨k, -, rfl⟩ := Option.map_eq_some_iff.1 hs
    exact hput c' k rfl
  | destructor c' =>
    obtain ⟨k, -, rfl⟩ := Option.map_eq_some_iff.1 hs
    exact hput c' k rfl

/-- Only a dispatcher completes. -/
theorem completed_eq {id : Text} {payload : Bytes} {found : Bool}
    (hs : step s a (.pending (.completed id payload found)) = some s') :
    ∃ c p, a = .dispatcher c ∧ PendingReplies.step (s.clients c).pending (.complete id payload) =
      some (p, .completed id payload found) ∧ s' = s.put c { s.clients c with pending := p } := by
  cases a with
  | dispatcher c =>
    obtain ⟨k, hk, rfl⟩ := Option.map_eq_some_iff.1 hs
    obtain ⟨p, hp, rfl⟩ := section_eq hk
    exact ⟨c, p, rfl, hp, rfl⟩
  | broker => cases hs
  | call c n => cases hs
  | destructor c => cases hs

/-- A call of the client waits for the id exactly when the map has it. -/
theorem Coherent.lookup_iff (hI : Coherent t s) (id : Text) :
    (∃ slot, (s.clients c).pending.pending.slots_.lookup id = some slot) ↔ ∃ n, PendingCall t c n id := by
  have hi := hI.pending c
  constructor
  · rintro ⟨slot, hl⟩
    obtain ⟨n, ht⟩ := (hi.inv.live id slot).1 hl
    rw [hi.tickets n, Option.map_eq_some_iff] at ht
    obtain ⟨⟨id', slot'⟩, hticket, heq⟩ := ht
    simp only [PendingReplies.Ticket.owning.injEq] at heq
    rw [heq.1, heq.2] at hticket
    exact ⟨n, slot, hticket⟩
  · rintro ⟨n, slot, hticket⟩
    refine ⟨slot, (hi.inv.live id slot).2 ⟨n, ?_⟩⟩
    have ht := hi.tickets n
    rw [show ticketOf (callsOf t c n) = some (id, slot) from hticket] at ht
    exact ht

theorem Coherent.unmatched {id : Text} {payload : Bytes} {found : Bool} (hI : Coherent t s) (hc : a.client = some c)
    (hnone : ∀ n, ¬ PendingCall t c n id) (hs : step s a (.pending (.completed id payload found)) = some s') :
    found = false ∧ s'.clients = s.clients := by
  obtain ⟨c', p, rfl, hp, rfl⟩ := completed_eq hs
  cases hc
  have hlookup : (s.clients c).pending.pending.slots_.lookup id = none := by
    by_contra hl
    obtain ⟨slot, hl⟩ := Option.ne_none_iff_exists'.1 hl
    obtain ⟨n, hn⟩ := (hI.lookup_iff id).1 ⟨slot, hl⟩
    exact hnone n hn
  simp only [PendingReplies.step, PendingReplies.Pending.complete, PendingReplies.Pending.finish, hlookup,
    Option.some.injEq, Prod.mk.injEq, PendingReplies.Event.completed.injEq, true_and] at hp
  obtain ⟨rfl, rfl⟩ := hp
  exact ⟨rfl, Function.update_eq_self c s.clients⟩

theorem Coherent.completed {n : Nat} {id : Text} {payload : Bytes} {found : Bool} (hI : Coherent t s)
    (hn : PendingCall t c n id) (hs : step s (.dispatcher c) (.pending (.completed id payload found)) = some s') :
    found = true ∧ s'.outcome c n = (s.outcome c n).or (some (.returned payload)) := by
  obtain ⟨c', p, hc, hp, rfl⟩ := completed_eq hs
  cases hc
  obtain ⟨slot, hl⟩ := (hI.lookup_iff id).2 ⟨n, hn⟩
  obtain ⟨slot', hticket⟩ := hn
  obtain ⟨cell, hcell, hid, -⟩ := (hI.pending c).cell_of_ticket hticket
  have hfound : found = true := by
    simp only [PendingReplies.step, PendingReplies.Pending.complete, PendingReplies.Pending.finish, hl,
      Option.some.injEq, Prod.mk.injEq, PendingReplies.Event.completed.injEq, true_and] at hp
    exact hp.2.symm
  have hcells := (PendingReplies.cells_finished (hI.pending c).inv hp rfl).2 n
  refine ⟨hfound, ?_⟩
  rw [System.outcome, System.outcome, System.put_self, hcells, hcell]
  simp [Cell.finish, PendingReplies.finishFor, hid]

theorem outcome_of_waited {n : Nat} {slot : PendingReplies.SlotRef} {r : WaitResult}
    (hs : step s (.call c n) (.pending (.waited slot r)) = some s') : r = (s.outcome c n).getD .timedOut := by
  obtain ⟨k, hk, rfl⟩ := Option.map_eq_some_iff.1 hs
  obtain ⟨p, hp, rfl⟩ := section_eq hk
  obtain ⟨-, cell, hcell, -, hr⟩ := PendingReplies.wait_cell hp
  rw [System.outcome, hcell]
  exact hr

/-- A call leaves the cells of the others alone. -/
theorem cells_of_other {k k' : Client} {topic : List Record} {m n : Nat} (hi : PendingReplies.Inv k.pending)
    (hn : n ≠ m) (hk : callEffect k topic m e = some k') : cells k'.pending n = cells k.pending n := by
  cases e with
  | pending ev =>
    cases ev with
    | registered id slot =>
      obtain ⟨p, hp, rfl⟩ := section_eq hk
      rw [PendingReplies.cells_registered hi hp, if_neg hn]
    | refused id error =>
      obtain ⟨p, hp, rfl⟩ := section_eq hk
      rw [PendingReplies.refused_eq hp]
    | waited slot r =>
      obtain ⟨p, hp, rfl⟩ := section_eq hk
      rw [PendingReplies.cells_waited hi hp, if_neg hn]
    | destroyed =>
      obtain ⟨p, hp, rfl⟩ := section_eq hk
      rw [PendingReplies.cells_destroyed hi hp, if_neg hn]
    | _ => cases hk
  | _ => rw [callEffect_pending_eq hk (by simp)]

/-- What a call has been finished with is not taken back from outside. -/
theorem Coherent.kept {n : Nat} {r : WaitResult} (hI : Coherent t s) (ha : a ≠ .call c n) (hs : step s a e = some s')
    (ho : s.outcome c n = some r) : s'.outcome c n = some r := by
  by_cases hc : a.client = some c
  · have hbeside : ∀ k : Client, Beside (s.clients c) k e → (s.put c k).outcome c n = some r := by
      intro k hk
      rw [System.outcome, System.put_self]
      rcases hk.pending with heq | ⟨action, ev, -, ha', hp⟩
      · rw [heq]
        exact ho
      · rw [System.outcome, Option.bind_eq_some_iff] at ho
        obtain ⟨cell, hcell, hout⟩ := ho
        rw [(PendingReplies.cells_finished (hI.pending c).inv hp ha').2, hcell]
        simp [Cell.finish, hout]
    cases a with
    | broker => cases hc
    | call c' m =>
      cases hc
      obtain ⟨k, hk, rfl⟩ := Option.map_eq_some_iff.1 hs
      have hn : n ≠ m := fun h => ha (by rw [h])
      rw [System.outcome, System.put_self, cells_of_other (hI.pending c).inv hn hk]
      exact ho
    | dispatcher c' =>
      cases hc
      obtain ⟨k, hk, rfl⟩ := Option.map_eq_some_iff.1 hs
      exact hbeside k (dispatcherEffect_beside hk)
    | destructor c' =>
      cases hc
      obtain ⟨k, hk, rfl⟩ := Option.map_eq_some_iff.1 hs
      exact hbeside k (destructorEffect_beside hk)
  · rw [System.outcome, clients_of_apart hc hs]
    exact ho

/-- While a call warms up, nobody has come to `PendingReplies` yet. -/
theorem Coherent.warm {k : Nat} (hI : Coherent t s) (hs : Starting (callsOf t c k)) (n : Nat) (id : Text) :
    ¬ PendingCall t c n id := by
  rintro ⟨slot, hticket⟩
  have hpast : (s.clients c).started = true := (hI.start c).past n ((hI.pending c).registered n id slot hticket).1
  have hstarting : (s.clients c).started = false := (hI.start c).starting k hs
  rw [hpast] at hstarting
  cases hstarting

theorem Coherent.ne_nil {n : Nat} {id : Text} (hI : Coherent t s) (hn : PendingCall t c n id) : id ≠ [] := by
  rintro rfl
  obtain ⟨slot, hticket⟩ := hn
  exact hI.ids _ (mem_historiesOf.1 ((hI.pending c).registered n [] slot hticket).2)

end System

/-! ## Isolation -/

section Isolation

variable {D : Deployment} {fuel : Nat} {t before after : List (Actor × ClientEvent)} {s s₁ s₂ : System} {a : Actor}
  {e : ClientEvent}

theorem coherent (hx : Execution step (D.program fuel) {} t s) : Coherent t s := by
  have hall : Throughout step (fun _ _ _ _ => True) ({} : System) t := fun _ _ _ _ _ _ _ => trivial
  exact (Execution.invariant (safe_program D fuel) coherent_init (fun _ _ _ _ _ _ _ _ => trivial)
    (fun _ _ _ _ _ hI _ hG hs => coherent_step hI hG hs) hx hall).1

theorem coherent_before (hx : Execution step (D.program fuel) {} t s) (ht : t = before ++ after)
    (hr : replay step {} before = some s₁) : Coherent before s₁ := by
  subst ht
  obtain ⟨s', hx', -⟩ := hx.before
  have heq : s' = s₁ := Option.some.inj (hx'.replays.symm.trans hr)
  exact coherent (heq ▸ hx')

theorem discipline_before (hx : Execution step (D.program fuel) {} t s) (ht : t = before ++ (a, e) :: after) :
    discipline a (historiesOf before a) e := by
  obtain ⟨o, ho⟩ := hx.runs a
  exact discipline_at ((safe_program D fuel a).admits ho (Prog.admits_true _ _)) ht

/-- The state an event happens in, and the one it leaves. -/
theorem states_at (hx : Execution step (D.program fuel) {} t s) (ht : t = before ++ (a, e) :: after) :
    ∃ s₁ s₂, replay step {} before = some s₁ ∧ step s₁ a e = some s₂ := by
  subst ht
  obtain ⟨s₁, hx₁, hr⟩ := hx.before
  rw [replay, Option.bind_eq_some_iff] at hr
  obtain ⟨s₂, hs, -⟩ := hr
  exact ⟨s₁, s₂, hx₁.replays, hs⟩

/-- Bytes that a call returns are a reply with the id it made. -/
theorem own_reply (hx : Execution step (D.program fuel) {} t s) {c n : Nat} {bytes : Bytes}
    (hr : (D.call fuel c n).Runs (ofActor (.call c n) t) (.done bytes)) :
    ∃ id, (.call c n, .newCorrelationId id) ∈ t ∧ Replied t c id bytes := by
  have hanswered := (safe_callClient (D.data c n) (D.len c n)).post hr (Prog.admits_true _ _)
  rw [List.append_nil] at hanswered
  obtain ⟨id, slot, later, earlier, hh, hregistered⟩ := hanswered bytes rfl
  obtain ⟨before, after, ht, hbefore, -⟩ := split_of_historiesOf hh
  obtain ⟨s₁, s₂, hr₁, hs⟩ := states_at hx ht
  have hI := coherent_before hx ht hr₁
  obtain ⟨k, hk, rfl⟩ := Option.map_eq_some_iff.1 hs
  obtain ⟨p, hp, rfl⟩ := section_eq hk
  obtain ⟨-, cell, hcell, -, hout⟩ := PendingReplies.wait_cell hp
  have hreturned : cell.outcome = some (.returned bytes) := by
    cases hc : cell.outcome with
    | none => rw [hc] at hout; cases hout
    | some r => rw [hc] at hout; rw [hout]; rfl
  have hticket := (hI.pending c).ticket_of_cell hcell
  have hcalls : callsOf before c n = earlier := hbefore
  rw [hcalls, hregistered.ticket] at hticket
  have hid : cell.id = id := by
    cases hticket
    rfl
  have hreply := (hI.pending c).answered n cell bytes hcell hreturned (by rw [hcalls]; exact hregistered.unwaited)
  have hmade : (.call c n, .newCorrelationId id) ∈ before := by
    rw [← mem_historiesOf, hbefore]
    exact hregistered.own
  refine ⟨id, ?_, ?_⟩
  · rw [ht]
    exact List.mem_append_left _ hmade
  · rw [ht, ← hid]
    exact hreply.mono

/-- A record for a call that waits is the next thing the dispatcher completes. -/
theorem completes_next (hx : Execution step (D.program fuel) {} t s) {c n : Nat} {record : Record}
    (ht : t = before ++ (.dispatcher c, .consume (.record record)) :: after)
    (hn : PendingCall before c n (correlationIdOf record)) :
    ofActor (.dispatcher c) after = [] ∨ ∃ mid found after',
      after = mid ++ (.dispatcher c, .pending (.completed (correlationIdOf record) record.payload found)) :: after' ∧
      ofActor (.dispatcher c) mid = [] := by
  rcases ofActor_next (.dispatcher c) after with hnil | ⟨mid, e, after', hafter, hmid⟩
  · exact .inl hnil
  · obtain ⟨s₁, -, hr₁, -⟩ := states_at hx ht
    have hid := (coherent_before hx ht hr₁).ne_nil hn
    have ht' : t = (before ++ (.dispatcher c, .consume (.record record)) :: mid) ++ (.dispatcher c, e) :: after' := by
      rw [ht, hafter]
      simp
    have hG : DispatcherDiscipline _ e := discipline_before hx ht'
    have hhistory : historiesOf (before ++ (.dispatcher c, .consume (.record record)) :: mid) (.dispatcher c) =
        .consume (.record record) :: historiesOf before (.dispatcher c) := by
      unfold historiesOf
      rw [ofActor_append, ofActor_cons_self, hmid]
      simp
    have hhanded : handed (.consume (.record record) :: historiesOf before (.dispatcher c)) = some record := by
      rw [handed, if_neg (by simpa using hid)]
    rw [hhistory] at hG
    obtain ⟨found, rfl⟩ := hG.completes record hhanded
    exact .inr ⟨mid, found, after', hafter, hmid⟩

/-- **Isolation**: whatever the order and the duplicates of the records, the failed deliveries and the timeouts, a call
returns a reply with its own id, a record for nobody changes nothing, and a record for a waiting call completes it. -/
theorem isolated (D : Deployment) (fuel : Nat) (t : List (Actor × ClientEvent)) (s : System)
    (hx : Execution step (D.program fuel) {} t s) : Isolated D fuel t := by
  constructor
  case own =>
    intro c n bytes hr
    obtain ⟨id, hmade, record, hpub, hcons, hid, hbytes⟩ := own_reply hx hr
    exact ⟨id, record, hmade, hpub, hcons, hid, hbytes⟩
  case strangers => exact fun _ _ _ _ _ _ _ _ hs => clients_of_consume hs
  case unmatched => exact fun _ _ _ _ _ _ _ _ _ ht hc hnone hr hs => (coherent_before hx ht hr).unmatched hc hnone hs
  case apart => exact fun _ _ _ _ _ _ _ _ ha _ hs => clients_of_apart ha hs
  case warm =>
    intro before c k record after ht n id
    obtain ⟨s₁, -, hr, -⟩ := states_at hx ht
    have hs : Starting (callsOf before c k) := discipline_before hx ht
    exact (coherent_before hx ht hr).warm hs n id
  case completes =>
    intro before c n record after ht hn
    rcases completes_next hx ht hn with hnil | ⟨mid, found, after', hafter, hmid⟩
    · exact .inl hnil
    · have ht' : t = (before ++ (.dispatcher c, .consume (.record record)) :: mid) ++
          (.dispatcher c, .pending (.completed (correlationIdOf record) record.payload found)) :: after' := by
        rw [ht, hafter]
        simp
      obtain ⟨s₁, s₂, hr, hs⟩ := states_at hx ht'
      exact .inr ⟨mid, found, after', s₁, s₂, hafter, hmid, hr, hs,
        fun hn' => (coherent_before hx ht' hr).completed hn' hs⟩
  case waits =>
    intro before c n slot r after s₁ ht hr
    obtain ⟨s₁', s₂, hr', hs⟩ := states_at hx ht
    have heq : s₁' = s₁ := Option.some.inj (hr'.symm.trans hr)
    rw [← heq]
    exact outcome_of_waited hs
  case kept => exact fun _ _ _ _ _ _ _ _ _ ht ha hr hs ho => (coherent_before hx ht hr).kept ha hs ho

end Isolation

def demoDeployment : Deployment where
  config _ := {}
  data _ _ := some []
  len _ _ := 0

def demoReply (id : Char) (offset : Nat) (payload : Bytes) : Record where
  partition := 0
  offset
  payload
  headers := [("correlation-id".toList, some [id])]

def replyX : Record := demoReply 'x' 0 [7]

def replyY : Record := demoReply 'y' 1 [9]

def demoStart (id : Char) : List ClientEvent :=
  [.startedLoaded false, .lockStart, .startedLoaded false, .createProducer (.ok ()), .createConsumer (.ok ()),
    .subscribe "graft.replies".toList none, .beforeWarmDeadline false, .startDispatcher (.ok ()), .startedStored,
    .unlockStart, .newCorrelationId [id], .pending (.registered [id] 0),
    .produce "graft.requests".toList (makeRpcHeaders [id] "graft.replies".toList) [] [id] none]

/-- Both records of the topic; `own` says of each whether a call of the client waits for it. -/
def demoDispatch (ownX ownY : Bool) : List ClientEvent :=
  [.stoppingLoaded false, .deliveryReport none, .consume (.record replyX), .pending (.completed ['x'] [7] ownX),
    .stoppingLoaded false, .deliveryReport none, .consume (.record replyY), .pending (.completed ['y'] [9] ownY)]

def demoEnd (payload : Bytes) : List ClientEvent := [.pending (.waited 0 (.returned payload)), .pending .destroyed]

/-- Two clients start with a call each, the broker publishes both replies to the one topic, and each gets its own. -/
def demoTrace : List (Actor × ClientEvent) :=
  (demoStart 'x').map (fun e => (.call 0 0, e)) ++ (demoStart 'y').map (fun e => (.call 1 0, e)) ++
    [(.broker, .publish replyX), (.broker, .publish replyY)] ++
    (demoDispatch true false).map (fun e => (.dispatcher 0, e)) ++
    (demoDispatch false true).map (fun e => (.dispatcher 1, e)) ++
    (demoEnd [7]).map (fun e => (.call 0 0, e)) ++ (demoEnd [9]).map (fun e => (.call 1 0, e))

theorem demo_replays : ∃ s, replay step {} demoTrace = some s := ⟨_, rfl⟩

theorem demo_call (c : Nat) (id : Char) (payload : Bytes) :
    (demoDeployment.call 3 c 0).Runs (demoStart id ++ demoEnd payload) (.done payload) := by
  refine Prog.runs_ask.2 ⟨false, rfl, Prog.runs_ask.2 ⟨(), rfl, Prog.runs_ask.2 ⟨false, rfl, ?_⟩⟩⟩
  refine Prog.runs_ask.2 ⟨.ok (), rfl, Prog.runs_ask.2 ⟨.ok (), rfl, Prog.runs_ask.2 ⟨none, rfl, ?_⟩⟩⟩
  refine Prog.runs_ask.2 ⟨false, rfl, Prog.runs_ask.2 ⟨.ok (), rfl, Prog.runs_ask.2 ⟨(), rfl, ?_⟩⟩⟩
  refine Prog.runs_ask.2 ⟨(), rfl, Prog.runs_ask.2 ⟨[id], rfl, Prog.runs_ask.2 ⟨.ok 0, rfl, ?_⟩⟩⟩
  refine Prog.runs_ask.2 ⟨none, rfl, Prog.runs_ask.2 ⟨.returned payload, rfl, Prog.runs_ask.2 ⟨(), rfl, ?_⟩⟩⟩
  exact ⟨rfl, rfl⟩

theorem demo_dispatcher (c : Nat) (ownX ownY : Bool) :
    (demoDeployment.program 3 (.dispatcher c)).Runs (demoDispatch ownX ownY) .cut := by
  refine Prog.runs_ask.2 ⟨false, rfl, Prog.runs_ask.2 ⟨none, rfl, Prog.runs_ask.2 ⟨.record replyX, rfl, ?_⟩⟩⟩
  refine Prog.runs_ask.2 ⟨ownX, rfl, Prog.runs_ask.2 ⟨false, rfl, Prog.runs_ask.2 ⟨none, rfl, ?_⟩⟩⟩
  refine Prog.runs_ask.2 ⟨.record replyY, rfl, Prog.runs_ask.2 ⟨ownY, rfl, ?_⟩⟩
  exact Prog.runs_ask_cut _ _

theorem demo_execution : ∃ s, Execution step (demoDeployment.program 3) {} demoTrace s := by
  have hcall : ∀ (c : Nat) (id : Char) (payload : Bytes), ofActor (.call c 0) demoTrace = demoStart id ++ demoEnd payload →
      ∃ o, (demoDeployment.program 3 (.call c 0)).Runs (ofActor (.call c 0) demoTrace) o := by
    intro c id payload htrace
    have hdone : (Pure.pure () : Prog Exn ClientEvent Unit).Runs [] (.done ()) := ⟨rfl, rfl⟩
    have hruns := Prog.Runs.bind (f := fun _ => Pure.pure ()) hdone (demo_call c id payload)
    rw [List.append_nil] at hruns
    rw [htrace]
    exact ⟨.done (), hruns⟩
  obtain ⟨s, hs⟩ := demo_replays
  refine ⟨s, hs, fun a => ?_⟩
  by_cases hmem : a ∈ [.call 0 0, .call 1 0, .broker, .dispatcher 0, .dispatcher 1]
  · simp only [List.mem_cons, List.not_mem_nil, or_false] at hmem
    rcases hmem with rfl | rfl | rfl | rfl | rfl
    · exact hcall 0 'x' [7] rfl
    · exact hcall 1 'y' [9] rfl
    · exact ⟨.cut, Prog.runs_ask.2 ⟨replyX, rfl, Prog.runs_ask.2 ⟨replyY, rfl, Prog.runs_ask_cut _ _⟩⟩⟩
    · exact ⟨.cut, demo_dispatcher 0 true false⟩
    · exact ⟨.cut, demo_dispatcher 1 false true⟩
  · have hactors : ∀ x ∈ demoTrace, x.1 ∈ [.call 0 0, .call 1 0, .broker, .dispatcher 0, .dispatcher 1] := by decide
    have hnil : ofActor a demoTrace = [] := by
      refine List.filterMap_eq_nil_iff.2 fun x hx => if_neg fun h => ?_
      have hx' := hactors x hx
      rw [h] at hx'
      exact hmem hx'
    rw [hnil]
    exact Prog.runs_nil _

theorem isolated_demo : Isolated demoDeployment 3 demoTrace ∧
    (demoDeployment.call 3 0 0).Runs (ofActor (.call 0 0) demoTrace) (.done [7]) ∧
    (demoDeployment.call 3 1 0).Runs (ofActor (.call 1 0) demoTrace) (.done [9]) := by
  obtain ⟨s, hx⟩ := demo_execution
  exact ⟨isolated demoDeployment 3 demoTrace s hx, demo_call 0 'x' [7], demo_call 1 'y' [9]⟩

end Clients
end Kafka
end Graftcode
