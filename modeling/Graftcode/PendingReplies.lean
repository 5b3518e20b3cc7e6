import Mathlib.Data.List.AList
import Mathlib.Logic.Function.Basic
import Graftcode.Cpp
import Graftcode.Machine
/-!
# PendingReplies — the map from correlation ids to waiting callers

`GraftcodePluginsInterfaces/PendingReplies.h`, the same file in all five plugins.  A slot is made by `make_shared` and
outlives its map entry, so slots live on a heap that only grows and the map holds references.  Every method is one
critical section of `mutex_`; `wait` is the last one of `Ticket::Wait`, where the predicate is read for the last time.

`State` adds the ticket objects, by place: a ticket is constructed by `Register`, moved between places, waited on, and
destroyed.  `step` is one such section; any interleaving of threads is a list of them.
-/
namespace Graftcode
namespace PendingReplies

abbrev SlotRef := Nat

structure Slot where
  done    : Bool := false
  failed  : Bool := false
  payload : Bytes := []
  error   : Text := []
  deriving DecidableEq, Repr

/-- What `Ticket::Wait` comes to: `false` on timeout, a throw, or `true` with the response. -/
inductive WaitResult where
  | timedOut
  | threw (error : Text)
  | returned (response : Bytes)
  deriving DecidableEq, Repr

/-- The entries of `std::map<std::string, std::shared_ptr<Slot>>`. -/
abbrev Entry := Sigma fun _ : Text => SlotRef

def slotOf (entry : Entry) : SlotRef := entry.2

structure Pending where
  heap         : List Slot
  slots_       : AList (fun _ : Text => SlotRef)
  closed_      : Bool
  closedError_ : Text

def Pending.empty : Pending := ⟨[], ∅, false, []⟩

/-! ## The methods -/

def markDone (failed : Bool) (payload : Bytes) (error : Text) (slot : Slot) : Slot :=
  if slot.done then slot
  else { done := true, failed := failed, payload := payload, error := error }

def Pending.register (p : Pending) (id : Text) : Except Text (Pending × SlotRef) :=
  if p.closed_ then .error p.closedError_
  else if id ∈ p.slots_ then .error ("duplicate correlation id ".toList ++ id)
  else .ok ({ p with heap := p.heap ++ [{}], slots_ := p.slots_.insert id p.heap.length }, p.heap.length)

def Pending.finish (p : Pending) (id : Text) (failed : Bool) (payload : Bytes) (error : Text) : Pending × Bool :=
  match p.slots_.lookup id with
  | none      => (p, false)
  | some slot => ({ p with heap := p.heap.modify slot (markDone failed payload error) }, true)

def Pending.complete (p : Pending) (id : Text) (payload : Bytes) : Pending × Bool := p.finish id false payload []

def Pending.fail (p : Pending) (id : Text) (error : Text) : Pending × Bool := p.finish id true [] error

/-- The loop over the map that `FailAll` and `Close` share. -/
def failEntries (error : Text) (entries : List Entry) (heap : List Slot) : List Slot :=
  entries.foldl (fun heap entry => heap.modify (slotOf entry) (markDone true [] error)) heap

def Pending.failAll (p : Pending) (error : Text) : Pending :=
  { p with heap := failEntries error p.slots_.entries p.heap }

def Pending.close (p : Pending) (error : Text) : Pending :=
  { p with closed_ := true, closedError_ := error, heap := failEntries error p.slots_.entries p.heap }

def Pending.remove (p : Pending) (id : Text) : Pending := { p with slots_ := p.slots_.erase id }

def Pending.isEmpty (p : Pending) : Bool := p.slots_.entries.isEmpty

/-- What a waiter reads off its slot: nothing before it is done. -/
def Slot.result (slot : Slot) : Option WaitResult :=
  if slot.done then some (if slot.failed then .threw slot.error else .returned slot.payload) else none

/-- The last section of `Ticket::Wait`; a successful wait moves the payload out of the slot. -/
def Pending.wait (p : Pending) (slot : SlotRef) : Pending × WaitResult :=
  match (p.heap[slot]?).bind Slot.result with
  | none               => (p, .timedOut)
  | some (.returned r) => ({ p with heap := p.heap.modify slot (fun s => { s with payload := [] }) }, .returned r)
  | some r             => (p, r)

/-! ## The tickets -/

/-- A ticket object; a moved-from one has no owner, and its destructor does nothing. -/
inductive Ticket where
  | owning (id : Text) (slot : SlotRef)
  | movedFrom
  deriving DecidableEq, Repr

structure State (Loc : Type) where
  pending : Pending
  tickets : Loc → Option Ticket

inductive Action (Loc : Type) where
  | register (loc : Loc) (id : Text)
  | complete (id : Text) (payload : Bytes)
  | fail (id : Text) (error : Text)
  | failAll (error : Text)
  | close (error : Text)
  | wait (loc : Loc)
  | move (src dst : Loc)
  | destroy (loc : Loc)

inductive Event where
  | registered (id : Text) (slot : SlotRef)
  | refused (id : Text) (error : Text)
  | completed (id : Text) (payload : Bytes) (found : Bool)
  | failed (id : Text) (error : Text) (found : Bool)
  | failedAll (error : Text)
  | closed (error : Text)
  | waited (slot : SlotRef) (result : WaitResult)
  | moved
  | destroyed
  deriving DecidableEq, Repr

variable {Loc : Type} [DecidableEq Loc]

def State.init : State Loc := ⟨.empty, fun _ => none⟩

def step (s : State Loc) : Action Loc → Option (State Loc × Event)
  | .register loc id =>
    match s.tickets loc with
    | some _ => none
    | none   =>
      match s.pending.register id with
      | .error e      => some (s, .refused id e)
      | .ok (p, slot) =>
        some (⟨p, Function.update s.tickets loc (some (.owning id slot))⟩, .registered id slot)
  | .complete id payload =>
    let r := s.pending.complete id payload
    some ({ s with pending := r.1 }, .completed id payload r.2)
  | .fail id error =>
    let r := s.pending.fail id error
    some ({ s with pending := r.1 }, .failed id error r.2)
  | .failAll error => some ({ s with pending := s.pending.failAll error }, .failedAll error)
  | .close error   => some ({ s with pending := s.pending.close error }, .closed error)
  | .wait loc =>
    match s.tickets loc with
    | some (.owning _ slot) =>
      let r := s.pending.wait slot
      some ({ s with pending := r.1 }, .waited slot r.2)
    | _ => none
  | .move src dst =>
    match s.tickets src, s.tickets dst with
    | some t, none =>
      some ({ s with tickets := Function.update (Function.update s.tickets dst (some t)) src (some .movedFrom) }, .moved)
    | _, _ => none
  | .destroy loc =>
    match s.tickets loc with
    | none => none
    | some .movedFrom => some ({ s with tickets := Function.update s.tickets loc none }, .destroyed)
    | some (.owning id _) =>
      some (⟨s.pending.remove id, Function.update s.tickets loc none⟩, .destroyed)

/-! ## Slots under the methods -/

@[simp] theorem result_new : ({} : Slot).result = none := rfl

@[simp] theorem result_markDone (f : Bool) (p : Bytes) (e : Text) (slot : Slot) :
    (markDone f p e slot).result = slot.result.or (some (if f then .threw e else .returned p)) := by
  unfold markDone Slot.result
  cases hd : slot.done <;> simp [hd]

@[simp] theorem markDone_markDone (f f' : Bool) (p p' : Bytes) (e e' : Text) (slot : Slot) :
    markDone f p e (markDone f' p' e' slot) = markDone f' p' e' slot := by
  unfold markDone
  cases hd : slot.done <;> simp [hd]

@[simp] theorem done_markDone (f : Bool) (p : Bytes) (e : Text) (slot : Slot) : (markDone f p e slot).done = true := by
  unfold markDone
  cases hd : slot.done <;> simp [hd]

@[simp] theorem length_failEntries (error : Text) : ∀ (entries : List Entry) (heap : List Slot),
    (failEntries error entries heap).length = heap.length
  | [], _ => rfl
  | e :: es, heap => by
    rw [failEntries, List.foldl_cons, ← failEntries, length_failEntries error es]
    exact List.length_modify ..

theorem getElem?_failEntries (error : Text) (slot : SlotRef) :
    ∀ (entries : List Entry) (heap : List Slot),
      (failEntries error entries heap)[slot]? =
        if slot ∈ entries.map slotOf then (heap[slot]?).map (markDone true [] error) else heap[slot]?
  | [], _ => by simp [failEntries]
  | e :: es, heap => by
    rw [failEntries, List.foldl_cons, ← failEntries, getElem?_failEntries error slot es]
    simp only [List.getElem?_modify, List.map_cons, List.mem_cons]
    by_cases he : slot = slotOf e
    · rw [if_pos (Or.inl he)]
      cases hs : heap[slot]? with
      | none => simp
      | some y => by_cases hm : slot ∈ es.map slotOf <;> simp [he]
    · rw [if_congr (or_iff_right he) rfl rfl]
      simp [Ne.symm he]

theorem mem_slots_iff (p : Pending) (slot : SlotRef) :
    slot ∈ p.slots_.entries.map slotOf ↔ ∃ id, p.slots_.lookup id = some slot := by
  constructor
  · intro h
    obtain ⟨⟨id, x⟩, he, rfl⟩ := List.mem_map.1 h
    exact ⟨id, AList.mem_lookup_iff.2 he⟩
  · rintro ⟨id, h⟩
    exact List.mem_map.2 ⟨⟨id, slot⟩, AList.mem_lookup_iff.1 h, rfl⟩

end PendingReplies
end Graftcode
