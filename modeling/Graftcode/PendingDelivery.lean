import Graftcode.PendingCells
/-!
# PendingDelivery — each outcome goes to exactly one call

What a `Wait` reports, read off the history of the whole map: the first event addressed to the ticket after its own
`Register`, and a timeout when there is none.  Nothing before the `Register`, nothing after the ticket is gone, and
nothing addressed to another id can be seen.

The history is kept latest event first.  `Traced` is the invariant: the outcome of every live cell is the first
addressed event since it was registered, until it is waited on.
-/
namespace Graftcode
namespace PendingReplies

variable {Loc : Type}

/-! ## What a step does to the heap and to one cell -/

theorem register_ok {p : Pending} {id : Text} {r : Pending × SlotRef} (h : p.register id = .ok r) :
    r.2 = p.heap.length ∧ r.1.heap.length = p.heap.length + 1 := by
  unfold Pending.register at h
  split at h
  · cases h
  split at h
  · cases h
  cases h
  exact ⟨rfl, by simp⟩

theorem length_finish (p : Pending) (id : Text) (f : Bool) (b : Bytes) (e : Text) :
    (p.finish id f b e).1.heap.length = p.heap.length := by
  unfold Pending.finish
  split
  · rfl
  · exact List.length_modify ..

theorem length_wait (p : Pending) (slot : SlotRef) : (p.wait slot).1.heap.length = p.heap.length := by
  unfold Pending.wait
  split
  · rfl
  · exact List.length_modify ..
  · rfl

theorem cell_bound {s : State Loc} (hi : Inv s) {loc : Loc} {c : Cell} (hc : cells s loc = some c) :
    c.slot < s.pending.heap.length :=
  hi.bound c.id c.slot ((hi.live c.id c.slot).2 ⟨loc, (cells_eq_some.1 hc).1⟩)

section Steps

variable [DecidableEq Loc]

theorem heap_step {s s' : State Loc} {a : Action Loc} {e : Event} (hs : step s a = some (s', e)) :
    s.pending.heap.length ≤ s'.pending.heap.length ∧
      ∀ id slot, e = .registered id slot → slot = s.pending.heap.length ∧ slot < s'.pending.heap.length := by
  cases a with
  | register loc id =>
    simp only [step] at hs
    split at hs
    · cases hs
    cases hr : s.pending.register id with
    | error err => rw [hr] at hs; cases hs; exact ⟨le_rfl, fun _ _ h => by cases h⟩
    | ok r =>
      rw [hr] at hs
      cases hs
      obtain ⟨h1, h2⟩ := register_ok hr
      refine ⟨by simp only [h2]; omega, fun i x h => ?_⟩
      cases h
      exact ⟨h1, by rw [h1, h2]; exact Nat.lt_succ_self _⟩
  | complete id payload =>
    cases hs
    exact ⟨Nat.le_of_eq (length_finish ..).symm, fun _ _ h => by cases h⟩
  | fail id error =>
    cases hs
    exact ⟨Nat.le_of_eq (length_finish ..).symm, fun _ _ h => by cases h⟩
  | failAll error =>
    cases hs
    exact ⟨Nat.le_of_eq (length_failEntries error _ _).symm, fun _ _ h => by cases h⟩
  | close error =>
    cases hs
    exact ⟨Nat.le_of_eq (length_failEntries error _ _).symm, fun _ _ h => by cases h⟩
  | wait loc =>
    simp only [step] at hs
    split at hs
    · cases hs
      exact ⟨Nat.le_of_eq (length_wait ..).symm, fun _ _ h => by cases h⟩
    · cases hs
  | move src dst =>
    simp only [step] at hs
    split at hs
    · cases hs
      exact ⟨le_rfl, fun _ _ h => by cases h⟩
    · cases hs
  | destroy loc =>
    simp only [step] at hs
    split at hs
    · cases hs
    · cases hs
      exact ⟨le_rfl, fun _ _ h => by cases h⟩
    · cases hs
      exact ⟨le_rfl, fun _ _ h => by cases h⟩

/-- Where a live cell comes from: this step registered it, or it was live, perhaps elsewhere, and heard the event. -/
theorem cell_origin {s s' : State Loc} {a : Action Loc} {e : Event} (hi : Inv s) (hs : step s a = some (s', e))
    {loc : Loc} {c : Cell} (hc : cells s' loc = some c) :
    (e = .registered c.id c.slot ∧ c.outcome = none) ∨
      ∃ loc' c₀, cells s loc' = some c₀ ∧ c₀.id = c.id ∧ c₀.slot = c.slot ∧
        ((∃ r, e = .waited c.slot r) ∨ c.outcome = c₀.outcome.or (finishFor c.id e)) := by
  have hkeep : ∀ (loc' : Loc) (c : Cell), cells s loc' = some c → finishFor c.id e = none →
      (e = .registered c.id c.slot ∧ c.outcome = none) ∨
      ∃ loc' c₀, cells s loc' = some c₀ ∧ c₀.id = c.id ∧ c₀.slot = c.slot ∧
        ((∃ r, e = .waited c.slot r) ∨ c.outcome = c₀.outcome.or (finishFor c.id e)) :=
    fun loc' c h hf => Or.inr ⟨loc', c, h, rfl, rfl, Or.inr (by rw [hf, Option.or_none])⟩
  have hmark : ∀ (loc' : Loc), (cells s loc').map (Cell.finish e) = some c →
      (e = .registered c.id c.slot ∧ c.outcome = none) ∨
      ∃ loc' c₀, cells s loc' = some c₀ ∧ c₀.id = c.id ∧ c₀.slot = c.slot ∧
        ((∃ r, e = .waited c.slot r) ∨ c.outcome = c₀.outcome.or (finishFor c.id e)) := by
    intro loc' h
    obtain ⟨c₀, h0, rfl⟩ := Option.map_eq_some_iff.1 h
    exact Or.inr ⟨loc', c₀, h0, rfl, rfl, Or.inr rfl⟩
  rw [cells_step hi hs] at hc
  cases a with
  | register l id =>
    simp only [step] at hs
    split at hs
    · cases hs
    cases hr : s.pending.register id with
    | error err => rw [hr] at hs; cases hs; exact hkeep loc c hc rfl
    | ok r =>
      rw [hr] at hs
      cases hs
      simp only [apply, Function.update_apply] at hc
      split at hc
      · cases hc; exact Or.inl ⟨rfl, rfl⟩
      · exact hkeep loc c hc rfl
  | complete id payload => cases hs; exact hmark loc hc
  | fail id error => cases hs; exact hmark loc hc
  | failAll error => cases hs; exact hmark loc hc
  | close error => cases hs; exact hmark loc hc
  | wait l =>
    simp only [step] at hs
    split at hs
    · rename_i id slot ht
      cases hs
      simp only [apply, Function.update_apply] at hc
      split at hc
      · obtain ⟨c₀, h0, rfl⟩ := Option.map_eq_some_iff.1 hc
        have : c₀.slot = slot := by
          have := (cells_eq_some.1 h0).1
          rw [ht] at this
          cases this
          rfl
        exact Or.inr ⟨l, c₀, h0, rfl, rfl, Or.inl ⟨_, by rw [Cell.drain, this]⟩⟩
      · exact hkeep loc c hc rfl
    · cases hs
  | move src dst =>
    simp only [step] at hs
    split at hs
    · cases hs
      simp only [apply, Function.update_apply] at hc
      split at hc
      · cases hc
      split at hc
      · exact hkeep src c hc rfl
      · exact hkeep loc c hc rfl
    · cases hs
  | destroy l =>
    have he : e = .destroyed := by
      simp only [step] at hs
      split at hs <;> cases hs <;> rfl
    simp only [apply, Function.update_apply] at hc
    split at hc
    · cases hc
    · exact hkeep loc c hc (by rw [he]; rfl)

/-! ## The invariant of the history -/

/-- Every live cell's outcome is the first addressed event since its `Register`. -/
structure Traced (s : State Loc) (h : List Event) : Prop where
  inv : Inv s
  bound : ∀ id slot, .registered id slot ∈ h → slot < s.pending.heap.length
  cell : ∀ loc c, cells s loc = some c → ∀ after id before, h = after ++ .registered id c.slot :: before →
    id = c.id ∧ ((∀ r, .waited c.slot r ∉ after) → c.outcome = after.reverse.findSome? (finishFor id))

omit [DecidableEq Loc] in
theorem traced_init : Traced (State.init : State Loc) [] where
  inv := inv_init
  bound _ _ h := by cases h
  cell loc c hc := by cases hc

theorem traced_step {s s' : State Loc} {h : List Event} {a : Action Loc} {e : Event} (ht : Traced s h)
    (hs : step s a = some (s', e)) : Traced s' (e :: h) where
  inv := inv_step ht.inv hs
  bound id slot hm := by
    obtain ⟨hle, hnew⟩ := heap_step hs
    rcases List.mem_cons.1 hm with he | hm
    · exact (hnew id slot he.symm).2
    · exact Nat.lt_of_lt_of_le (ht.bound id slot hm) hle
  cell loc c hc after id before hh := by
    rcases cell_origin ht.inv hs hc with ⟨he, hout⟩ | ⟨loc', c₀, h0, hid, hslot, hout⟩
    · -- this step registered the cell, so the history has its slot nowhere else
      cases after with
      | nil =>
        simp only [List.nil_append, List.cons.injEq] at hh
        rw [he] at hh
        cases hh.1
        exact ⟨rfl, fun _ => by rw [hout]; rfl⟩
      | cons x after =>
        simp only [List.cons_append, List.cons.injEq] at hh
        have hm : .registered id c.slot ∈ h := by rw [hh.2]; simp
        exact absurd (ht.bound id c.slot hm) (by rw [((heap_step hs).2 _ _ he).1]; exact lt_irrefl _)
    · cases after with
      | nil =>
        simp only [List.nil_append, List.cons.injEq] at hh
        have := ((heap_step hs).2 _ _ hh.1).1
        exact absurd (cell_bound ht.inv h0) (by rw [hslot, this]; exact lt_irrefl _)
      | cons x after =>
        simp only [List.cons_append, List.cons.injEq] at hh
        obtain ⟨rfl, hh⟩ := hh
        obtain ⟨h1, h2⟩ := ht.cell loc' c₀ h0 after id before (by rw [hslot]; exact hh)
        rw [hslot] at h2
        refine ⟨h1.trans hid, fun hw => ?_⟩
        have hw' : ∀ r, .waited c.slot r ∉ after := fun r hm => hw r (List.mem_cons_of_mem _ hm)
        rcases hout with ⟨r, rfl⟩ | hout
        · exact absurd List.mem_cons_self (hw r)
        · rw [hout, h2 hw', ← hid, ← h1, List.reverse_cons, List.findSome?_append]
          simp

theorem traced_reachable {as : List (Action Loc)} {s : State Loc} {es : List Event}
    (h : Machine.run step State.init as = some (s, es)) : Traced s es.reverse := by
  simpa using Machine.run_invariant (fun _ _ _ _ _ ht hs => traced_step ht hs) as traced_init h

theorem registered_once {as : List (Action Loc)} {s : State Loc} {pre post : List Event} {id id' : Text}
    {slot : SlotRef} (h : Machine.run step State.init as = some (s, pre ++ .registered id slot :: post)) :
    .registered id' slot ∉ pre := by
  intro hm
  obtain ⟨as₁, a, as₂, s₁, s₂, -, hr1, hs, -⟩ := Machine.run_split _ h
  have hlt := (traced_reachable hr1).bound id' slot (List.mem_reverse.2 hm)
  rw [((heap_step hs).2 id slot rfl).1] at hlt
  exact lt_irrefl _ hlt

/-! ## Delivery -/

theorem finishFor_ne_timedOut {id : Text} {e : Event} {r : WaitResult} (h : finishFor id e = some r) :
    r ≠ .timedOut := by
  rintro rfl
  cases e <;> simp [finishFor] at h

theorem finishFor_returned {id : Text} {e : Event} {bytes : Bytes} (h : finishFor id e = some (.returned bytes)) :
    ∃ found, e = .completed id bytes found := by
  cases e with
  | completed i payload found =>
    simp only [finishFor, Option.ite_none_right_eq_some, Option.some.injEq, WaitResult.returned.injEq] at h
    obtain ⟨rfl, rfl⟩ := h
    exact ⟨found, rfl⟩
  | _ => simp [finishFor] at h

/-- A `Wait` reports the outcome of its own cell. -/
theorem wait_cell {s s' : State Loc} {loc : Loc} {slot : SlotRef} {r : WaitResult}
    (hs : step s (.wait loc) = some (s', .waited slot r)) :
    s'.tickets = s.tickets ∧ ∃ c, cells s loc = some c ∧ c.slot = slot ∧ r = c.outcome.getD .timedOut := by
  simp only [step] at hs
  split at hs
  · rename_i id slot' ht
    simp only [Option.some.injEq, Prod.mk.injEq, Event.waited.injEq] at hs
    obtain ⟨rfl, rfl, rfl⟩ := hs
    have hc : cells s loc = some ⟨id, slot', (s.pending.heap[slot']?).bind Slot.result⟩ :=
      cells_eq_some.2 ⟨ht, rfl⟩
    exact ⟨rfl, _, hc, rfl, wait_result hc⟩
  · cases hs

theorem waited_cell {s s' : State Loc} {a : Action Loc} {slot : SlotRef} {r : WaitResult}
    (hs : step s a = some (s', .waited slot r)) :
    ∃ loc c, cells s loc = some c ∧ c.slot = slot ∧ r = c.outcome.getD .timedOut := by
  cases a with
  | wait loc =>
    obtain ⟨-, c, hc, hslot, hr⟩ := wait_cell hs
    exact ⟨loc, c, hc, hslot, hr⟩
  | register loc id =>
    simp only [step] at hs
    split at hs
    · cases hs
    · cases hr : s.pending.register id <;> rw [hr] at hs <;> cases hs
  | move src dst => simp only [step] at hs; split at hs <;> cases hs
  | destroy loc => simp only [step] at hs; split at hs <;> cases hs
  | _ => cases hs

/-- The `Wait` of a ticket reports the first event addressed to it since its `Register`. -/
theorem waited_outcome {as : List (Action Loc)} {s : State Loc} {pre mid post : List Event} {id : Text} {slot : SlotRef}
    {r : WaitResult}
    (hrun : Machine.run step State.init as =
      some (s, pre ++ .registered id slot :: (mid ++ .waited slot r :: post)))
    (hsingle : ∀ r', .waited slot r' ∉ mid) :
    r = (mid.findSome? (finishFor id)).getD .timedOut := by
  have hrun' : Machine.run step State.init as =
      some (s, (pre ++ .registered id slot :: mid) ++ .waited slot r :: post) := by
    rw [hrun]; simp
  obtain ⟨as₁, a, as₂, s₁, s₂, -, hr1, hs, -⟩ := Machine.run_split _ hrun'
  obtain ⟨loc, c, hc, hslot, hres⟩ := waited_cell hs
  have ht := traced_reachable hr1
  obtain ⟨-, hout⟩ := ht.cell loc c hc mid.reverse id pre.reverse (by simp [hslot])
  have hout : c.outcome = mid.findSome? (finishFor id) := by
    simpa using hout (fun r' hm => hsingle r' (by simpa [hslot] using hm))
  rw [hres, hout]

theorem completed_of_outcome {mid : List Event} {id : Text} {bytes : Bytes}
    (h : .returned bytes = (mid.findSome? (finishFor id)).getD .timedOut) :
    ∃ before found after, mid = before ++ .completed id bytes found :: after ∧
      ∀ e ∈ before, finishFor id e = none := by
  cases hf : mid.findSome? (finishFor id) with
  | none => rw [hf] at h; cases h
  | some x =>
    rw [hf] at h
    cases h
    obtain ⟨before, e, after, hmid, he, hbefore⟩ := List.findSome?_eq_some_iff.1 hf
    obtain ⟨found, rfl⟩ := finishFor_returned he
    exact ⟨before, found, after, hmid, hbefore⟩

/-- **Delivery**: the `Wait` of a ticket reports the first event addressed to it since its `Register`, a timeout exactly
when there is none, and bytes only from a `Complete` of its own id. -/
theorem wait_delivers {as : List (Action Loc)} {s : State Loc} {pre mid post : List Event} {id : Text} {slot : SlotRef}
    {r : WaitResult}
    (hrun : Machine.run step State.init as =
      some (s, pre ++ .registered id slot :: (mid ++ .waited slot r :: post)))
    (hsingle : ∀ r', .waited slot r' ∉ mid) :
    r = (mid.findSome? (finishFor id)).getD .timedOut ∧
      (r = .timedOut ↔ ∀ e ∈ mid, finishFor id e = none) ∧
      (∀ bytes, r = .returned bytes → ∃ before found after, mid = before ++ .completed id bytes found :: after ∧
        ∀ e ∈ before, finishFor id e = none) := by
  have hres := waited_outcome hrun hsingle
  refine ⟨hres, ?_, ?_⟩
  · rw [← List.findSome?_eq_none_iff, hres]
    cases hf : mid.findSome? (finishFor id) with
    | none => simp
    | some x =>
      obtain ⟨e, -, he⟩ := List.exists_of_findSome?_eq_some hf
      simpa using finishFor_ne_timedOut he
  · rintro bytes rfl
    exact completed_of_outcome hres

end Steps

/-- Two callers use one id after each other; the first one's reply comes late, the second one's twice. -/
def reusedId : List (Action Bool) :=
  [.register false ['a'], .wait false, .destroy false, .complete ['a'] [1], .register true ['a'],
    .complete ['a'] [2], .complete ['a'] [3], .wait true]

theorem wait_delivers_reusedId :
    ∃ s : State Bool, Machine.run step State.init reusedId = some (s,
        [.registered ['a'] 0, .waited 0 .timedOut, .destroyed, .completed ['a'] [1] false] ++ .registered ['a'] 1 ::
          ([.completed ['a'] [2] true, .completed ['a'] [3] true] ++ .waited 1 (.returned [2]) :: [])) ∧
      ∃ before found after, ([.completed ['a'] [2] true, .completed ['a'] [3] true] : List Event) =
        before ++ .completed ['a'] [2] found :: after ∧ ∀ e ∈ before, finishFor ['a'] e = none := by
  exact Exists.imp (fun s hs => ⟨hs, (wait_delivers hs (by simp)).2.2 [2] rfl⟩) ⟨_, rfl⟩

end PendingReplies
end Graftcode
