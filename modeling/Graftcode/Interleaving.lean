import Mathlib.Data.List.Basic
import Graftcode.Prog
/-!
# Interleaving — several programs, one trace

A system of sequential programs that run concurrently has one trace, each event under the actor that had it.  What a
program keeps to (`Prog.Admits`) is said of the actor's own events; `ofActor` is that projection, and the lemmas here
carry a discipline from it to an event of the whole trace.
-/
namespace Graftcode

variable {Actor Ev : Type} [DecidableEq Actor]

/-- The events of one actor, in order. -/
def ofActor (a : Actor) (t : List (Actor × Ev)) : List Ev :=
  t.filterMap fun x => if x.1 = a then some x.2 else none

@[simp] theorem ofActor_nil (a : Actor) : ofActor a ([] : List (Actor × Ev)) = [] := rfl

@[simp] theorem ofActor_append (a : Actor) (t u : List (Actor × Ev)) :
    ofActor a (t ++ u) = ofActor a t ++ ofActor a u := List.filterMap_append ..

@[simp] theorem ofActor_cons_self (a : Actor) (e : Ev) (t : List (Actor × Ev)) :
    ofActor a ((a, e) :: t) = e :: ofActor a t := by simp [ofActor]

@[simp] theorem ofActor_map_self (a : Actor) (es : List Ev) : ofActor a (es.map fun e => (a, e)) = es := by
  simp [ofActor, List.filterMap_map]

theorem mem_ofActor {a : Actor} {e : Ev} {t : List (Actor × Ev)} : e ∈ ofActor a t ↔ (a, e) ∈ t := by
  unfold ofActor
  rw [List.mem_filterMap]
  constructor
  · rintro ⟨⟨b, e'⟩, hm, hb⟩
    simp only [Option.ite_none_right_eq_some, Option.some.injEq] at hb
    obtain ⟨rfl, rfl⟩ := hb
    exact hm
  · intro hm
    exact ⟨(a, e), hm, by simp⟩

/-- An event of the trace satisfies its actor's discipline at the actor's own history. -/
theorem discipline_at {G : List Ev → Ev → Prop} {a : Actor} {t before after : List (Actor × Ev)} {e : Ev}
    (hG : Prog.Admits G [] (ofActor a t)) (ht : t = before ++ (a, e) :: after) : G (ofActor a before).reverse e := by
  have hsplit : ofActor a t = ofActor a before ++ e :: ofActor a after := by rw [ht]; simp
  simpa using (Prog.admits_iff _ _ _).1 hG _ _ _ hsplit

theorem discipline_of_mem {G : List Ev → Ev → Prop} {a : Actor} {t : List (Actor × Ev)} {e : Ev}
    (hG : Prog.Admits G [] (ofActor a t)) (hm : (a, e) ∈ t) : ∃ h, G h e ∧ ∀ x ∈ h, (a, x) ∈ t := by
  obtain ⟨before, after, ht⟩ := List.append_of_mem hm
  refine ⟨_, discipline_at hG ht, fun x hx => ?_⟩
  rw [List.mem_reverse, mem_ofActor] at hx
  rw [ht]
  exact List.mem_append_left _ hx

end Graftcode
