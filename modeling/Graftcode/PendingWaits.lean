import Graftcode.Interleaving
import Graftcode.PendingDelivery
/-!
# PendingWaits — threads around their maps of pending replies

In a trace of many threads every client has a map of its own.  `Wiring` says which map a thread works on and which of its
events are the map's; `Waiting` is what a trace has to keep to: what happened to a map is a run of it, and a thread waits
at most once, on a slot it has registered.  Then a wait reports the first event on its map that finishes its id.
-/
namespace Graftcode
namespace PendingReplies

variable {Actor Ev Client Loc : Type}

/-- Which map a thread works on, and the events that are events of a map. -/
structure Wiring (Actor Ev Client : Type) where
  clientOf : Actor → Option Client
  event : Event → Ev
  event? : Ev → Option Event
  event?_iff : ∀ e x, event? e = some x ↔ e = event x

section Waiting

variable [DecidableEq Client] [DecidableEq Loc]

/-- What happened to the map of a client, in order. -/
def Wiring.events (W : Wiring Actor Ev Client) (c : Client) (t : List (Actor × Ev)) : List Event :=
  t.filterMap fun x => if W.clientOf x.1 = some c then W.event? x.2 else none

/-- Every map of the trace is one, and a thread waits once, on a slot it has registered. -/
structure Waiting (Loc : Type) [DecidableEq Loc] (W : Wiring Actor Ev Client) (t : List (Actor × Ev)) : Prop where
  maps : ∀ c, ∃ (actions : List (Action Loc)) (state : State Loc),
    Machine.run step .init actions = some (state, W.events c t)
  waits : ∀ before a after slot r c, W.clientOf a = some c → t = before ++ (a, W.event (.waited slot r)) :: after →
    (∃ id, (a, W.event (.registered id slot)) ∈ before) ∧ ∀ slot' r', (a, W.event (.waited slot' r')) ∉ before

variable {W : Wiring Actor Ev Client} {t : List (Actor × Ev)} {c : Client}

omit [DecidableEq Client] in
@[simp] theorem Wiring.event?_event (W : Wiring Actor Ev Client) (x : Event) : W.event? (W.event x) = some x :=
  (W.event?_iff _ _).2 rfl

theorem mem_events {x : Event} : x ∈ W.events c t ↔ ∃ a, W.clientOf a = some c ∧ (a, W.event x) ∈ t := by
  unfold Wiring.events
  rw [List.mem_filterMap]
  constructor
  · rintro ⟨⟨a, e⟩, hm, he⟩
    simp only [Option.ite_none_right_eq_some] at he
    obtain ⟨hc, he⟩ := he
    obtain rfl := (W.event?_iff e x).1 he
    exact ⟨a, hc, hm⟩
  · rintro ⟨a, hc, hm⟩
    exact ⟨_, hm, by simp [hc]⟩

theorem events_append (u v : List (Actor × Ev)) : W.events c (u ++ v) = W.events c u ++ W.events c v :=
  List.filterMap_append ..

theorem events_cons {a : Actor} (hc : W.clientOf a = some c) (x : Event) (u : List (Actor × Ev)) :
    W.events c ((a, W.event x) :: u) = x :: W.events c u := by
  simp [Wiring.events, hc]

namespace Waiting

variable (hw : Waiting Loc W t)
include hw

theorem not_registered_before {a b : Actor} {before after : List (Actor × Ev)} {id id' : Text} {slot : SlotRef}
    (ha : W.clientOf a = some c) (hb : W.clientOf b = some c)
    (ht : t = before ++ (a, W.event (.registered id slot)) :: after) :
    (b, W.event (.registered id' slot)) ∉ before := by
  intro hm
  obtain ⟨actions, state, hrun⟩ := hw.maps c
  rw [ht, events_append, events_cons ha] at hrun
  exact registered_once hrun (mem_events.2 ⟨b, hb, hm⟩)

/-- A slot belongs to the one thread that registered it. -/
theorem registered_by {a b : Actor} {id id' : Text} {slot : SlotRef} (ha : W.clientOf a = some c)
    (hb : W.clientOf b = some c) (hma : (a, W.event (.registered id slot)) ∈ t)
    (hmb : (b, W.event (.registered id' slot)) ∈ t) : a = b := by
  obtain ⟨before, after, ht⟩ := List.append_of_mem hma
  rw [ht] at hmb
  rcases List.mem_append.1 hmb with hm | hm
  · exact absurd hm (hw.not_registered_before ha hb ht)
  rcases List.mem_cons.1 hm with heq | hm
  · exact (Prod.mk.inj heq).1.symm
  · obtain ⟨mid, rest, rfl⟩ := List.append_of_mem hm
    have ht' : t = (before ++ (a, W.event (.registered id slot)) :: mid) ++ (b, W.event (.registered id' slot)) ::
        rest := by
      rw [ht]
      simp
    have hin : (a, W.event (.registered id slot)) ∈ before ++ (a, W.event (.registered id slot)) :: mid := by simp
    exact absurd hin (hw.not_registered_before hb ha ht')

/-- **A wait reports the first event on its map that finishes its id**, of those since the registration; a timeout when
there is none. -/
theorem outcome {a : Actor} {before after : List (Actor × Ev)} {slot : SlotRef} {r : WaitResult}
    (ha : W.clientOf a = some c) (ht : t = before ++ (a, W.event (.waited slot r)) :: after) :
    ∃ id pre mid, before = pre ++ (a, W.event (.registered id slot)) :: mid ∧
      r = ((W.events c mid).findSome? (finishFor id)).getD .timedOut := by
  obtain ⟨⟨id, hreg⟩, hun⟩ := hw.waits before a after slot r c ha ht
  obtain ⟨pre, mid, rfl⟩ := List.append_of_mem hreg
  refine ⟨id, pre, mid, rfl, ?_⟩
  -- nobody else waits on the slot in between: whoever waits has registered it
  have hsingle : ∀ r', .waited slot r' ∉ W.events c mid := by
    intro r' hm
    obtain ⟨b, hb, hmb⟩ := mem_events.1 hm
    obtain ⟨u, v, rfl⟩ := List.append_of_mem hmb
    have ht' : t = (pre ++ (a, W.event (.registered id slot)) :: u) ++ (b, W.event (.waited slot r')) ::
        (v ++ (a, W.event (.waited slot r)) :: after) := by
      rw [ht]
      simp
    obtain ⟨⟨id', hreg'⟩, -⟩ := hw.waits _ b _ slot r' c hb ht'
    have hregb : (b, W.event (.registered id' slot)) ∈ t := by
      rw [ht']
      exact List.mem_append_left _ hreg'
    have hrega : (a, W.event (.registered id slot)) ∈ t := by
      rw [ht]
      exact List.mem_append_left _ hreg
    obtain rfl := hw.registered_by hb ha hregb hrega
    apply hun slot r'
    simp
  obtain ⟨actions, state, hrun⟩ := hw.maps c
  have hevents : W.events c t = W.events c pre ++ .registered id slot ::
      (W.events c mid ++ .waited slot r :: W.events c after) := by
    rw [ht, events_append, events_append, events_cons ha, events_cons ha]
    simp
  rw [hevents] at hrun
  exact waited_outcome hrun hsingle

end Waiting

omit [DecidableEq Loc] in
/-- What a wait reports is a timeout and nothing finished its id, or some event did. -/
theorem outcome_cases {mid : List (Actor × Ev)} {id : Text} {r : WaitResult}
    (h : r = ((W.events c mid).findSome? (finishFor id)).getD .timedOut) :
    (r = .timedOut ∧ ∀ a x, W.clientOf a = some c → (a, W.event x) ∈ mid → finishFor id x = none) ∨
      (r ≠ .timedOut ∧ ∃ a x, W.clientOf a = some c ∧ (a, W.event x) ∈ mid ∧ finishFor id x = some r) := by
  cases hfind : (W.events c mid).findSome? (finishFor id) with
  | none =>
    rw [hfind] at h
    exact .inl ⟨h, fun a x ha hm => List.findSome?_eq_none_iff.1 hfind x (mem_events.2 ⟨a, ha, hm⟩)⟩
  | some r' =>
    rw [hfind] at h
    obtain rfl : r = r' := h
    obtain ⟨x, hx, hfinish⟩ := List.exists_of_findSome?_eq_some hfind
    obtain ⟨a, ha, hm⟩ := mem_events.1 hx
    exact .inr ⟨finishFor_ne_timedOut hfinish, a, x, ha, hm, hfinish⟩

end Waiting

end PendingReplies
end Graftcode
