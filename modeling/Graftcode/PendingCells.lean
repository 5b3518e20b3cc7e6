import Graftcode.PendingReplies
/-!
# PendingCells — what the map is for

A live ticket is a one-shot cell: it has an id, and the first event addressed to it is its outcome.  `cells` reads the
cells off the real state and `apply` says what an event does to them; `cells_step` is the refinement, under the
invariant `Inv` that the map's entries are exactly the live tickets.
-/
namespace Graftcode
namespace PendingReplies

variable {Loc : Type}

/-! ## The invariant -/

/-- The map holds exactly the live tickets' slots, one place each; once closed, every slot in it is finished. -/
structure Inv (s : State Loc) : Prop where
  bound : ∀ id slot, s.pending.slots_.lookup id = some slot → slot < s.pending.heap.length
  live : ∀ id slot, s.pending.slots_.lookup id = some slot ↔ ∃ loc, s.tickets loc = some (.owning id slot)
  place : ∀ loc loc' id id' slot, s.tickets loc = some (.owning id slot) → s.tickets loc' = some (.owning id' slot) →
    loc = loc'
  finished : s.pending.closed_ = true → ∀ id slot, s.pending.slots_.lookup id = some slot →
    ∃ x, s.pending.heap[slot]? = some x ∧ x.done = true

theorem inv_init : Inv (State.init : State Loc) where
  bound id slot h := by simp [State.init, Pending.empty] at h
  live id slot := by simp [State.init, Pending.empty]
  place loc loc' id id' slot h := by simp [State.init] at h
  finished h := by simp [State.init, Pending.empty] at h

theorem Inv.id_eq {s : State Loc} (hi : Inv s) {id id' : Text} {slot : SlotRef}
    (h : s.pending.slots_.lookup id = some slot) (h' : s.pending.slots_.lookup id' = some slot) : id = id' := by
  obtain ⟨loc, hl⟩ := (hi.live id slot).1 h
  obtain ⟨loc', hl'⟩ := (hi.live id' slot).1 h'
  have := hi.place loc loc' id id' slot hl hl'
  subst this
  rw [hl] at hl'
  cases hl'
  rfl

/-- `Empty` answers whether no ticket is alive. -/
theorem Inv.isEmpty_iff {s : State Loc} (hi : Inv s) :
    s.pending.isEmpty = true ↔ ∀ loc id slot, s.tickets loc ≠ some (.owning id slot) := by
  unfold Pending.isEmpty
  rw [List.isEmpty_iff]
  constructor
  · intro hnil loc id slot ht
    have hentry := AList.mem_lookup_iff.1 ((hi.live id slot).2 ⟨loc, ht⟩)
    rw [hnil] at hentry
    cases hentry
  · intro hnone
    refine List.eq_nil_iff_forall_not_mem.2 fun entry hentry => ?_
    obtain ⟨loc, ht⟩ := (hi.live entry.1 entry.2).1 (AList.mem_lookup_iff.2 hentry)
    exact hnone loc _ _ ht

/-- Marking slots done keeps the invariant: the map and the tickets are not touched. -/
theorem Inv.of_heap {s : State Loc} (hi : Inv s) (heap : List Slot) (hlen : heap.length = s.pending.heap.length)
    (hdone : ∀ (i : Nat) (x : Slot), s.pending.heap[i]? = some x → x.done = true →
      ∃ y, heap[i]? = some y ∧ y.done = true) :
    Inv ({ s with pending := { s.pending with heap := heap } } : State Loc) where
  bound id slot h := by rw [hlen]; exact hi.bound id slot h
  live := hi.live
  place := hi.place
  finished hc id slot h := by
    obtain ⟨x, hx, hd⟩ := hi.finished hc id slot h
    exact hdone slot x hx hd

theorem Inv.finish {s : State Loc} (hi : Inv s) (id : Text) (f : Bool) (p : Bytes) (e : Text) :
    Inv ({ s with pending := (s.pending.finish id f p e).1 } : State Loc) := by
  unfold Pending.finish
  cases hl : s.pending.slots_.lookup id with
  | none => exact hi
  | some slot =>
    refine hi.of_heap _ (List.length_modify ..) (fun i x hx hd => ?_)
    refine ⟨if slot = i then markDone f p e x else x, ?_, ?_⟩
    · rw [List.getElem?_modify, hx]; rfl
    · split <;> simp [hd]

theorem Inv.failEntries {s : State Loc} (hi : Inv s) (e : Text) :
    Inv ({ s with pending := s.pending.failAll e } : State Loc) := by
  refine hi.of_heap _ (length_failEntries e _ _) (fun i x hx hd => ?_)
  rw [getElem?_failEntries, hx]
  split
  · exact ⟨_, rfl, by simp⟩
  · exact ⟨x, rfl, hd⟩

theorem Inv.close {s : State Loc} (hi : Inv s) (e : Text) :
    Inv ({ s with pending := s.pending.close e } : State Loc) where
  bound id slot h := by
    simp only [Pending.close, length_failEntries]
    exact hi.bound id slot h
  live := hi.live
  place := hi.place
  finished _ id slot h := by
    have hlt := hi.bound id slot h
    refine ⟨markDone true [] e s.pending.heap[slot], ?_, by simp⟩
    have hm : slot ∈ s.pending.slots_.entries.map slotOf := (mem_slots_iff _ _).2 ⟨id, h⟩
    simp only [Pending.close, getElem?_failEntries, if_pos hm, List.getElem?_eq_getElem hlt, Option.map_some]

theorem Inv.wait {s : State Loc} (hi : Inv s) (slot : SlotRef) :
    Inv ({ s with pending := (s.pending.wait slot).1 } : State Loc) := by
  unfold Pending.wait
  split
  · exact hi
  · refine hi.of_heap _ (List.length_modify ..) (fun i x hx hd => ?_)
    refine ⟨if slot = i then { x with payload := [] } else x, ?_, by split <;> exact hd⟩
    rw [List.getElem?_modify, hx]; rfl
  · exact hi

section Steps

variable [DecidableEq Loc]

theorem live_update_new {tickets : Loc → Option Ticket} {loc : Loc} (hloc : tickets loc = none) (id₀ id : Text)
    (slot₀ slot : SlotRef) :
    (∃ l, Function.update tickets loc (some (.owning id₀ slot₀)) l = some (.owning id slot)) ↔
      (id₀ = id ∧ slot₀ = slot) ∨ ∃ l, tickets l = some (.owning id slot) := by
  constructor
  · rintro ⟨l, hl⟩
    by_cases hll : l = loc
    · subst hll; left; simpa using hl
    · rw [Function.update_of_ne hll] at hl; exact Or.inr ⟨l, hl⟩
  · rintro (⟨rfl, rfl⟩ | ⟨l, hl⟩)
    · exact ⟨loc, by simp⟩
    · refine ⟨l, ?_⟩
      rw [Function.update_of_ne (fun h => by rw [h, hloc] at hl; cases hl)]
      exact hl

theorem live_update_none {tickets : Loc → Option Ticket} {loc : Loc} {t : Ticket} (ht : tickets loc = some t) (id : Text)
    (slot : SlotRef) :
    (∃ l, Function.update tickets loc none l = some (.owning id slot)) ↔
      ∃ l, l ≠ loc ∧ tickets l = some (.owning id slot) := by
  constructor
  · rintro ⟨l, hl⟩
    by_cases hll : l = loc
    · subst hll; simp at hl
    · rw [Function.update_of_ne hll] at hl; exact ⟨l, hll, hl⟩
  · rintro ⟨l, hll, hl⟩
    exact ⟨l, by rw [Function.update_of_ne hll]; exact hl⟩

theorem Inv.register {s : State Loc} (hi : Inv s) {loc : Loc} {id : Text} {p : Pending} {slot : SlotRef}
    (hloc : s.tickets loc = none) (hr : s.pending.register id = .ok (p, slot)) :
    Inv (⟨p, Function.update s.tickets loc (some (.owning id slot))⟩ : State Loc) := by
  unfold Pending.register at hr
  split at hr
  · cases hr
  rename_i hc
  split at hr
  · cases hr
  rename_i hid
  cases hr
  have hnone : s.pending.slots_.lookup id = none := AList.lookup_eq_none.2 hid
  have htick : ∀ l i, s.tickets l ≠ some (.owning i s.pending.heap.length) := fun l i h =>
    Nat.lt_irrefl _ (hi.bound i _ ((hi.live i _).2 ⟨l, h⟩))
  constructor
  case bound =>
    intro i r h
    rw [List.length_append]
    by_cases hii : i = id
    · subst hii
      simp only [AList.lookup_insert, Option.some.injEq] at h
      simp [← h]
    · simp only [AList.lookup_insert_ne hii] at h
      exact Nat.lt_add_right _ (hi.bound i r h)
  case live =>
    intro i r
    rw [live_update_new hloc, ← hi.live]
    by_cases hii : i = id
    · subst hii
      simp [AList.lookup_insert, hnone]
    · simp [AList.lookup_insert_ne hii, Ne.symm hii]
  case place =>
    intro l l' i i' r h h'
    simp only [Function.update_apply] at h h'
    split at h <;> split at h'
    · rename_i hl hl'; rw [hl, hl']
    · cases h; exact absurd h' (htick l' i')
    · cases h'; exact absurd h (htick l i)
    · exact hi.place l l' i i' r h h'
  case finished =>
    intro hc'
    exact absurd hc' hc

theorem Inv.destroy {s : State Loc} (hi : Inv s) {loc : Loc} {id : Text} {slot : SlotRef}
    (ht : s.tickets loc = some (.owning id slot)) :
    Inv (⟨s.pending.remove id, Function.update s.tickets loc none⟩ : State Loc) := by
  have hsub : ∀ i r, (s.pending.remove id).slots_.lookup i = some r ↔ i ≠ id ∧ s.pending.slots_.lookup i = some r := by
    intro i r
    by_cases hii : i = id
    · subst hii; simp [Pending.remove]
    · simp [Pending.remove, AList.lookup_erase_ne hii, hii]
  constructor
  case bound => exact fun i r h => hi.bound i r ((hsub i r).1 h).2
  case live =>
    intro i r
    rw [live_update_none ht, hsub, hi.live]
    constructor
    · rintro ⟨hii, l, hl⟩
      exact ⟨l, fun h => hii (by rw [h, ht] at hl; cases hl; rfl), hl⟩
    · rintro ⟨l, hll, hl⟩
      refine ⟨fun hii => hll ?_, l, hl⟩
      subst hii
      have h1 := (hi.live i r).2 ⟨l, hl⟩
      rw [(hi.live i slot).2 ⟨loc, ht⟩] at h1
      cases h1
      exact hi.place l loc i i slot hl ht
  case place =>
    intro l l' i i' r h h'
    simp only [Function.update_apply] at h h'
    split at h <;> split at h'
    · cases h
    · cases h
    · cases h'
    · exact hi.place l l' i i' r h h'
  case finished => exact fun hc i r h => hi.finished hc i r ((hsub i r).1 h).2

theorem Inv.drop {s : State Loc} (hi : Inv s) {loc : Loc} (ht : s.tickets loc = some .movedFrom) :
    Inv ({ s with tickets := Function.update s.tickets loc none } : State Loc) := by
  constructor
  case bound => exact hi.bound
  case finished => exact hi.finished
  case live =>
    intro i r
    rw [live_update_none ht, hi.live]
    constructor
    · rintro ⟨l, hl⟩
      exact ⟨l, (fun h => by rw [h, ht] at hl; cases hl), hl⟩
    · rintro ⟨l, -, hl⟩
      exact ⟨l, hl⟩
  case place =>
    intro l l' i i' r h h'
    simp only [Function.update_apply] at h h'
    split at h <;> split at h'
    · cases h
    · cases h
    · cases h'
    · exact hi.place l l' i i' r h h'

theorem Inv.move {s : State Loc} (hi : Inv s) {src dst : Loc} {t : Ticket} (hsrc : s.tickets src = some t)
    (hdst : s.tickets dst = none) :
    Inv ({ s with tickets := Function.update (Function.update s.tickets dst (some t)) src (some .movedFrom) } :
      State Loc) := by
  have hne : dst ≠ src := fun h => by rw [h, hsrc] at hdst; cases hdst
  have hsub : ∀ l i r, Function.update (Function.update s.tickets dst (some t)) src (some .movedFrom) l =
      some (.owning i r) ↔ (l = dst ∧ s.tickets src = some (.owning i r)) ∨
        (l ≠ src ∧ l ≠ dst ∧ s.tickets l = some (.owning i r)) := by
    intro l i r
    simp only [Function.update_apply]
    by_cases h1 : l = src
    · subst h1; simp [Ne.symm hne]
    · by_cases h2 : l = dst
      · subst h2; simp [h1, hsrc]
      · simp [h1, h2]
  constructor
  case bound => exact hi.bound
  case finished => exact hi.finished
  case live =>
    intro i r
    rw [hi.live]
    constructor
    · rintro ⟨l, hl⟩
      by_cases hl1 : l = src
      · exact ⟨dst, (hsub dst i r).2 (Or.inl ⟨rfl, hl1 ▸ hl⟩)⟩
      · refine ⟨l, (hsub l i r).2 (Or.inr ⟨hl1, fun h => ?_, hl⟩)⟩
        rw [h, hdst] at hl; cases hl
    · rintro ⟨l, hl⟩
      rcases (hsub l i r).1 hl with ⟨-, h⟩ | ⟨-, -, h⟩
      · exact ⟨src, h⟩
      · exact ⟨l, h⟩
  case place =>
    intro l l' i i' r h h'
    rcases (hsub l i r).1 h with ⟨rfl, h1⟩ | ⟨hl1, -, h1⟩ <;>
      rcases (hsub l' i' r).1 h' with ⟨rfl, h2⟩ | ⟨hl2, -, h2⟩
    · rfl
    · exact absurd (hi.place src l' i i' r h1 h2).symm hl2
    · exact absurd (hi.place l src i i' r h1 h2) hl1
    · exact hi.place l l' i i' r h1 h2

/-- **Every step keeps the invariant.** -/
theorem inv_step {s s' : State Loc} {a : Action Loc} {e : Event} (hi : Inv s) (hs : step s a = some (s', e)) :
    Inv s' := by
  cases a with
  | register loc id =>
    simp only [step] at hs
    cases hloc : s.tickets loc with
    | some t => rw [hloc] at hs; cases hs
    | none =>
      rw [hloc] at hs
      cases hr : s.pending.register id with
      | error err => rw [hr] at hs; cases hs; exact hi
      | ok r => rw [hr] at hs; cases hs; exact hi.register hloc hr
  | complete id payload => cases hs; exact hi.finish ..
  | fail id error => cases hs; exact hi.finish ..
  | failAll error => cases hs; exact hi.failEntries error
  | close error => cases hs; exact hi.close error
  | wait loc =>
    simp only [step] at hs
    split at hs
    · cases hs; exact hi.wait _
    · cases hs
  | move src dst =>
    simp only [step] at hs
    split at hs
    · rename_i t hsrc hdst; cases hs; exact hi.move hsrc hdst
    · cases hs
  | destroy loc =>
    simp only [step] at hs
    cases ht : s.tickets loc with
    | none => rw [ht] at hs; cases hs
    | some t =>
      rw [ht] at hs
      cases t with
      | owning id slot => cases hs; exact hi.destroy ht
      | movedFrom => cases hs; exact hi.drop ht

theorem inv_reachable {as : List (Action Loc)} {s : State Loc} {es : List Event}
    (h : Machine.run step State.init as = some (s, es)) : Inv s :=
  Machine.run_state_invariant (fun _ _ _ _ hi hs => inv_step hi hs) as inv_init h

/-! ### No leak, no theft -/

theorem Inv.destroy_keeps {s s' : State Loc} {loc : Loc} {e : Event} (hi : Inv s)
    (hs : step s (.destroy loc) = some (s', e)) {loc' : Loc} {id : Text} {slot : SlotRef} (hne : loc' ≠ loc)
    (ht : s.tickets loc' = some (.owning id slot)) : s'.pending.slots_.lookup id = some slot := by
  have hi' := inv_step hi hs
  refine (hi'.live id slot).2 ⟨loc', ?_⟩
  simp only [step] at hs
  cases hl : s.tickets loc with
  | none => rw [hl] at hs; cases hs
  | some t =>
    rw [hl] at hs
    cases t with
    | owning id' slot' =>
      cases hs
      rw [← ht]
      exact Function.update_of_ne hne _ _
    | movedFrom =>
      cases hs
      rw [← ht]
      exact Function.update_of_ne hne _ _

theorem refused_eq {s s' : State Loc} {loc : Loc} {id id' : Text} {error : Text}
    (hs : step s (.register loc id) = some (s', .refused id' error)) : s' = s := by
  simp only [step] at hs
  cases hl : s.tickets loc with
  | some t => rw [hl] at hs; cases hs
  | none =>
    rw [hl] at hs
    cases hr : s.pending.register id with
    | error what => rw [hr] at hs; cases hs; rfl
    | ok r => rw [hr] at hs; cases hs

theorem closed_step {s s' : State Loc} {a : Action Loc} {e : Event} (hc : s.pending.closed_ = true)
    (hs : step s a = some (s', e)) : s'.pending.closed_ = true ∧ ∀ id slot, e ≠ .registered id slot := by
  have hfinish : ∀ id f b what, (s.pending.finish id f b what).1.closed_ = true := by
    intro id f b what
    unfold Pending.finish
    split <;> exact hc
  cases a with
  | register loc id =>
    simp only [step] at hs
    cases hl : s.tickets loc with
    | some t => rw [hl] at hs; cases hs
    | none =>
      have hr : s.pending.register id = .error s.pending.closedError_ := by
        rw [Pending.register, if_pos hc]
      rw [hl, hr] at hs
      cases hs
      exact ⟨hc, nofun⟩
  | complete id payload => cases hs; exact ⟨hfinish .., nofun⟩
  | fail id error => cases hs; exact ⟨hfinish .., nofun⟩
  | failAll error => cases hs; exact ⟨hc, nofun⟩
  | close error => cases hs; exact ⟨rfl, nofun⟩
  | wait loc =>
    simp only [step] at hs
    split at hs
    · rename_i id slot ht
      cases hs
      refine ⟨?_, nofun⟩
      unfold Pending.wait
      split <;> exact hc
    · cases hs
  | move src dst =>
    simp only [step] at hs
    split at hs
    · cases hs; exact ⟨hc, nofun⟩
    · cases hs
  | destroy loc =>
    simp only [step] at hs
    cases ht : s.tickets loc with
    | none => rw [ht] at hs; cases hs
    | some t =>
      rw [ht] at hs
      cases t <;> cases hs <;> exact ⟨hc, nofun⟩

theorem closed_run {s s' : State Loc} {as : List (Action Loc)} {es : List Event} (hc : s.pending.closed_ = true)
    (hr : Machine.run step s as = some (s', es)) (id : Text) (slot : SlotRef) : .registered id slot ∉ es := by
  have hinv := @Machine.run_invariant _ _ _ step
    (fun s (h : List Event) => s.pending.closed_ = true ∧ ∀ id slot, .registered id slot ∉ h)
    (fun s h a s' e hP hs => by
      obtain ⟨hc', he⟩ := closed_step hP.1 hs
      refine ⟨hc', fun id slot hm => ?_⟩
      rcases List.mem_cons.1 hm with heq | hm
      · exact he id slot heq.symm
      · exact hP.2 id slot hm) as s s' [] es ⟨hc, by simp⟩ hr
  simpa using hinv.2 id slot

/-- **No leak, no theft**: in every reachable state the map is the live tickets, each id with its one ticket's slot;
destroying a ticket takes no other's entry, a refused `Register` changes nothing, and once closed every slot in the map
is finished and nothing is registered again. -/
theorem map_is_live_tickets {as : List (Action Loc)} {s : State Loc} {es : List Event}
    (hrun : Machine.run step State.init as = some (s, es)) :
    (∀ id slot, s.pending.slots_.lookup id = some slot ↔ ∃ loc, s.tickets loc = some (.owning id slot)) ∧
      (∀ loc loc' id slot slot', s.tickets loc = some (.owning id slot) → s.tickets loc' = some (.owning id slot') →
        loc = loc') ∧
      (∀ loc s' e, step s (.destroy loc) = some (s', e) → ∀ loc' id slot, loc' ≠ loc →
        s.tickets loc' = some (.owning id slot) → s'.pending.slots_.lookup id = some slot) ∧
      (∀ loc id id' error s', step s (.register loc id) = some (s', .refused id' error) →
        s'.pending.slots_ = s.pending.slots_) ∧
      (s.pending.closed_ = true →
        (∀ id slot, s.pending.slots_.lookup id = some slot → ∃ x, s.pending.heap[slot]? = some x ∧ x.done = true) ∧
          ∀ as' s' es', Machine.run step s as' = some (s', es') → ∀ id slot, .registered id slot ∉ es') := by
  have hi := inv_reachable hrun
  refine ⟨hi.live, ?_, ?_, ?_, ?_⟩
  · intro loc loc' id slot slot' h h'
    have hl := (hi.live id slot).2 ⟨loc, h⟩
    rw [(hi.live id slot').2 ⟨loc', h'⟩] at hl
    cases hl
    exact hi.place loc loc' id id slot h h'
  · exact fun loc s' e hs loc' id slot hne ht => hi.destroy_keeps hs hne ht
  · exact fun loc id id' error s' hs => by rw [refused_eq hs]
  · exact fun hc => ⟨hi.finished hc, fun as' s' es' hr => closed_run hc hr⟩

/-- A ticket is moved, its id is refused to another, and the map is closed over it. -/
def movedThenClosed : List (Action Bool) :=
  [.register false ['a'], .move false true, .destroy false, .register false ['a'], .close ['x']]

theorem map_is_live_tickets_movedThenClosed :
    ∃ (s : State Bool) (es : List Event), Machine.run step State.init movedThenClosed = some (s, es) ∧
      ∀ id slot, s.pending.slots_.lookup id = some slot ↔ ∃ loc, s.tickets loc = some (.owning id slot) := by
  obtain ⟨s, es, hs⟩ : ∃ (s : State Bool) (es : List Event),
      Machine.run step State.init movedThenClosed = some (s, es) := ⟨_, _, rfl⟩
  exact ⟨s, es, hs, (map_is_live_tickets hs).1⟩

end Steps

/-! ## The cells -/

/-- A live ticket: its id, its slot as its name, and what it was finished with. -/
structure Cell where
  id      : Text
  slot    : SlotRef
  outcome : Option WaitResult
  deriving DecidableEq

/-- The outcome an event gives the ticket of `id`, when it is addressed to it. -/
def finishFor (id : Text) : Event → Option WaitResult
  | .completed i payload _ => if i = id then some (.returned payload) else none
  | .failed i error _      => if i = id then some (.threw error) else none
  | .failedAll error       => some (.threw error)
  | .closed error          => some (.threw error)
  | _                      => none

/-- The first outcome stands. -/
def Cell.finish (e : Event) (c : Cell) : Cell := { c with outcome := c.outcome.or (finishFor c.id e) }

/-- A successful wait moves the payload out. -/
def WaitResult.drain : WaitResult → WaitResult
  | .returned _ => .returned []
  | r           => r

def Cell.drain (c : Cell) : Cell := { c with outcome := c.outcome.map WaitResult.drain }

def cells (s : State Loc) (loc : Loc) : Option Cell :=
  match s.tickets loc with
  | some (.owning id slot) => some ⟨id, slot, (s.pending.heap[slot]?).bind Slot.result⟩
  | _ => none

theorem cells_eq_some {s : State Loc} {loc : Loc} {c : Cell} :
    cells s loc = some c ↔ s.tickets loc = some (.owning c.id c.slot) ∧
      c.outcome = (s.pending.heap[c.slot]?).bind Slot.result := by
  unfold cells
  split
  · rename_i id slot h
    rw [h]
    obtain ⟨i, r, o⟩ := c
    simp only [Option.some.injEq, Cell.mk.injEq, Ticket.owning.injEq]
    constructor
    · rintro ⟨rfl, rfl, rfl⟩; exact ⟨⟨rfl, rfl⟩, rfl⟩
    · rintro ⟨⟨rfl, rfl⟩, rfl⟩; exact ⟨rfl, rfl, rfl⟩
  · rename_i h
    constructor
    · intro hc; cases hc
    · rintro ⟨hc, -⟩; exact absurd hc (h _ _)

theorem outcome_finish {s : State Loc} (hi : Inv s) {loc : Loc} {id id' : Text} {slot : SlotRef} (f : Bool) (p : Bytes)
    (e : Text) (ht : s.tickets loc = some (.owning id' slot)) :
    (((s.pending.finish id f p e).1.heap[slot]?).bind Slot.result) =
      ((s.pending.heap[slot]?).bind Slot.result).or
        (if id = id' then some (if f then .threw e else .returned p) else none) := by
  have hl := (hi.live id' slot).2 ⟨loc, ht⟩
  have hlt := hi.bound id' slot hl
  unfold Pending.finish
  by_cases hid : id = id'
  · subst hid
    rw [hl]
    simp [List.getElem?_eq_getElem hlt]
  · rw [if_neg hid, Option.or_none]
    cases hid' : s.pending.slots_.lookup id with
    | none => rfl
    | some slot' =>
      have hne : slot' ≠ slot := fun h => hid (hi.id_eq (h ▸ hid') hl)
      simp [List.getElem?_modify_ne _ _ hne]

theorem outcome_failEntries {s : State Loc} (hi : Inv s) {loc : Loc} {id : Text} {slot : SlotRef} (e : Text)
    (ht : s.tickets loc = some (.owning id slot)) :
    (((failEntries e s.pending.slots_.entries s.pending.heap)[slot]?).bind Slot.result) =
      ((s.pending.heap[slot]?).bind Slot.result).or (some (.threw e)) := by
  have hl := (hi.live id slot).2 ⟨loc, ht⟩
  have hm : slot ∈ s.pending.slots_.entries.map slotOf := (mem_slots_iff _ _).2 ⟨id, hl⟩
  rw [getElem?_failEntries, if_pos hm, List.getElem?_eq_getElem (hi.bound id slot hl)]
  simp

theorem wait_result {s : State Loc} {loc : Loc} {c : Cell} (hc : cells s loc = some c) :
    (s.pending.wait c.slot).2 = c.outcome.getD .timedOut := by
  rw [(cells_eq_some.1 hc).2]
  unfold Pending.wait
  split
  · rename_i h; rw [h]; rfl
  · rename_i r h; rw [h]; rfl
  · rename_i r _ h; rw [h]; rfl

theorem outcome_wait {s : State Loc} (slot slot' : SlotRef) :
    (((s.pending.wait slot).1.heap[slot']?).bind Slot.result) =
      if slot' = slot then ((s.pending.heap[slot']?).bind Slot.result).map WaitResult.drain
      else (s.pending.heap[slot']?).bind Slot.result := by
  by_cases hs : slot' = slot
  · subst hs
    rw [if_pos rfl]
    unfold Pending.wait
    cases hx : s.pending.heap[slot']? with
    | none => simp [hx]
    | some x =>
      cases hd : x.done <;> cases hf : x.failed <;> simp [Slot.result, WaitResult.drain, hx, hd, hf]
  · rw [if_neg hs]
    unfold Pending.wait
    split <;> simp [List.getElem?_modify_ne _ _ (Ne.symm hs)]

theorem cells_mark {s : State Loc} {p : Pending} {e : Event}
    (hout : ∀ loc id slot, s.tickets loc = some (.owning id slot) →
      ((p.heap[slot]?).bind Slot.result) = ((s.pending.heap[slot]?).bind Slot.result).or (finishFor id e)) :
    cells { s with pending := p } = fun loc => (cells s loc).map (Cell.finish e) := by
  funext loc
  simp only [cells]
  split
  · rename_i id slot ht
    simp [Cell.finish, hout loc id slot ht]
  · rfl

variable [DecidableEq Loc]

def apply (cells : Loc → Option Cell) : Action Loc → Event → Loc → Option Cell
  | .register loc _, .registered id slot => Function.update cells loc (some ⟨id, slot, none⟩)
  | .register _ _, _  => cells
  | .wait loc, _      => Function.update cells loc ((cells loc).map Cell.drain)
  | .move src dst, _  => Function.update (Function.update cells dst (cells src)) src none
  | .destroy loc, _   => Function.update cells loc none
  | _, e              => fun loc => (cells loc).map (Cell.finish e)

theorem cells_register {s : State Loc} (hi : Inv s) {loc : Loc} {id : Text} {r : Pending × SlotRef}
    (hr : s.pending.register id = .ok r) :
    cells ⟨r.1, Function.update s.tickets loc (some (.owning id r.2))⟩ =
      Function.update (cells s) loc (some ⟨id, r.2, none⟩) := by
  unfold Pending.register at hr
  split at hr
  · cases hr
  split at hr
  · cases hr
  cases hr
  funext l
  simp only [cells, Function.update_apply]
  by_cases h1 : l = loc
  · simp [h1]
  · rw [if_neg h1, if_neg h1]
    split
    · rename_i i slot ht
      have hlt := hi.bound i slot ((hi.live i slot).2 ⟨l, ht⟩)
      rw [List.getElem?_append_left hlt]
    · rfl

theorem cells_wait {s : State Loc} (hi : Inv s) {loc : Loc} {id : Text} {slot : SlotRef}
    (ht : s.tickets loc = some (.owning id slot)) :
    cells { s with pending := (s.pending.wait slot).1 } = Function.update (cells s) loc ((cells s loc).map Cell.drain) := by
  funext l
  simp only [cells, Function.update_apply]
  by_cases h1 : l = loc
  · subst h1
    simp [ht, outcome_wait, Cell.drain]
  · rw [if_neg h1]
    split
    · rename_i i slot' ht'
      have hne : slot' ≠ slot := fun h => h1 (hi.place l loc i id slot (h ▸ ht') ht)
      rw [outcome_wait, if_neg hne]
    · rfl

/-- **The map refines the cells**: a step of the code is the step of the cells that its event names. -/
theorem cells_step {s s' : State Loc} {a : Action Loc} {e : Event} (hi : Inv s) (hs : step s a = some (s', e)) :
    cells s' = apply (cells s) a e := by
  cases a with
  | register loc id =>
    simp only [step] at hs
    cases hloc : s.tickets loc with
    | some t => rw [hloc] at hs; cases hs
    | none =>
      rw [hloc] at hs
      cases hr : s.pending.register id with
      | error err => rw [hr] at hs; cases hs; rfl
      | ok r =>
        rw [hr] at hs
        cases hs
        exact cells_register hi hr
  | complete id payload =>
    cases hs
    exact cells_mark fun l i slot ht => outcome_finish hi false payload [] ht
  | fail id error =>
    cases hs
    exact cells_mark fun l i slot ht => outcome_finish hi true [] error ht
  | failAll error =>
    cases hs
    exact cells_mark fun l i slot ht => outcome_failEntries hi error ht
  | close error =>
    cases hs
    exact cells_mark fun l i slot ht => outcome_failEntries hi error ht
  | wait loc =>
    simp only [step] at hs
    split at hs
    · rename_i i slot ht
      cases hs
      exact cells_wait hi ht
    · cases hs
  | move src dst =>
    simp only [step] at hs
    split at hs
    · rename_i t hsrc hdst
      cases hs
      have hne : dst ≠ src := fun h => by rw [h, hsrc] at hdst; cases hdst
      funext l
      simp only [apply, cells, Function.update_apply]
      by_cases h1 : l = src
      · simp [h1]
      · by_cases h2 : l = dst
        · simp [h2, hsrc, hne]
        · simp [h1, h2]
    · cases hs
  | destroy loc =>
    have hd : ∀ (t : Ticket) (p : Pending), p.heap = s.pending.heap → s.tickets loc = some t →
        cells ⟨p, Function.update s.tickets loc none⟩ = Function.update (cells s) loc none := by
      intro t p hp _
      funext l
      simp only [cells, Function.update_apply, hp]
      by_cases h1 : l = loc <;> simp [h1]
    simp only [step] at hs
    cases ht : s.tickets loc with
    | none => rw [ht] at hs; cases hs
    | some t =>
      rw [ht] at hs
      cases t with
      | owning id slot => cases hs; exact hd _ _ rfl ht
      | movedFrom => cases hs; exact hd _ _ rfl ht

section

variable {s s' : State Loc} {loc : Loc} {e : Event}

theorem cells_registered (hi : Inv s) {id : Text} {slot : SlotRef}
    (hs : step s (.register loc id) = some (s', .registered id slot)) (l : Loc) :
    cells s' l = if l = loc then some ⟨id, slot, none⟩ else cells s l := by
  rw [cells_step hi hs]
  exact Function.update_apply ..

theorem cells_waited (hi : Inv s) (hs : step s (.wait loc) = some (s', e)) (l : Loc) :
    cells s' l = if l = loc then (cells s loc).map Cell.drain else cells s l := by
  rw [cells_step hi hs]
  exact Function.update_apply ..

theorem cells_destroyed (hi : Inv s) (hs : step s (.destroy loc) = some (s', e)) (l : Loc) :
    cells s' l = if l = loc then none else cells s l := by
  rw [cells_step hi hs]
  exact Function.update_apply ..

theorem tickets_registered {id id' : Text} {slot : SlotRef}
    (hs : step s (.register loc id) = some (s', .registered id' slot)) :
    s'.tickets = Function.update s.tickets loc (some (.owning id' slot)) := by
  simp only [step] at hs
  cases hl : s.tickets loc with
  | some t => rw [hl] at hs; cases hs
  | none =>
    rw [hl] at hs
    cases hr : s.pending.register id with
    | error what => rw [hr] at hs; cases hs
    | ok r => rw [hr] at hs; cases hs; rfl

theorem tickets_destroyed (hs : step s (.destroy loc) = some (s', e)) :
    s'.tickets = Function.update s.tickets loc none := by
  simp only [step] at hs
  cases hl : s.tickets loc with
  | none => rw [hl] at hs; cases hs
  | some t =>
    rw [hl] at hs
    cases t <;> cases hs <;> rfl

end

/-- The actions that reach a ticket from outside its call. -/
def Action.finishes : Action Loc → Bool
  | .complete _ _ => true
  | .fail _ _     => true
  | .failAll _    => true
  | .close _      => true
  | _             => false

theorem cells_finished {s s' : State Loc} {a : Action Loc} {e : Event} (hi : Inv s) (hs : step s a = some (s', e))
    (ha : a.finishes = true) : s'.tickets = s.tickets ∧ ∀ l, cells s' l = (cells s l).map (Cell.finish e) := by
  rw [cells_step hi hs]
  cases a with
  | complete id payload => cases hs; exact ⟨rfl, fun _ => rfl⟩
  | fail id error => cases hs; exact ⟨rfl, fun _ => rfl⟩
  | failAll error => cases hs; exact ⟨rfl, fun _ => rfl⟩
  | close error => cases hs; exact ⟨rfl, fun _ => rfl⟩
  | _ => cases ha

end PendingReplies
end Graftcode
