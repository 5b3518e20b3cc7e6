import Mathlib.Data.List.DropRight
import Mathlib.Data.List.TakeWhile
/-!
# Trimming — what is left of a list when elements at its ends go

`dropWhile` and `rdropWhile` by what they leave: the rest of the list that does not begin, or end, with such an element.
-/
namespace Graftcode
namespace Trimming

variable {α : Type} {p : α → Bool}

theorem dropWhile_append {pre l : List α} (hpre : ∀ x ∈ pre, p x = true) : (pre ++ l).dropWhile p = l.dropWhile p := by
  induction pre with
  | nil => rfl
  | cons x pre ih =>
    obtain ⟨hx, hrest⟩ := List.forall_mem_cons.1 hpre
    rw [List.cons_append, List.dropWhile_cons_of_pos hx, ih hrest]

theorem dropWhile_eq_self {l : List α} (h : ∀ x, l.head? = some x → p x = false) : l.dropWhile p = l := by
  cases l with
  | nil => rfl
  | cons x l =>
    have hx := h x rfl
    exact List.dropWhile_cons_of_neg (by rw [hx]; exact Bool.false_ne_true)

theorem head?_dropWhile {l : List α} {x : α} (h : (l.dropWhile p).head? = some x) : p x = false := by
  have := List.head?_dropWhile_not p l
  rw [h] at this
  simpa using this

/-- What `dropWhile` leaves is the rest that does not begin with such an element. -/
theorem dropWhile_eq_iff {l rest : List α} :
    l.dropWhile p = rest ↔
      (∃ pre, l = pre ++ rest ∧ ∀ x ∈ pre, p x = true) ∧ ∀ x, rest.head? = some x → p x = false := by
  constructor
  · rintro rfl
    refine ⟨⟨l.takeWhile p, List.takeWhile_append_dropWhile.symm, fun x hx => ?_⟩, fun x hx => head?_dropWhile hx⟩
    exact List.mem_takeWhile_imp hx
  · rintro ⟨⟨pre, rfl, hpre⟩, hrest⟩
    rw [dropWhile_append hpre, dropWhile_eq_self hrest]

theorem rdropWhile_append {l post : List α} (hpost : ∀ x ∈ post, p x = true) :
    (l ++ post).rdropWhile p = l.rdropWhile p := by
  rw [List.rdropWhile, List.reverse_append, dropWhile_append fun x hx => hpost x (List.mem_reverse.1 hx), List.rdropWhile]

theorem rdropWhile_eq_self {l : List α} (h : ∀ x, l.getLast? = some x → p x = false) : l.rdropWhile p = l := by
  rw [List.rdropWhile, dropWhile_eq_self, List.reverse_reverse]
  intro x hx
  rw [List.head?_reverse] at hx
  exact h x hx

/-- What `rdropWhile` leaves is the front that does not end with such an element. -/
theorem rdropWhile_eq_iff {l rest : List α} :
    l.rdropWhile p = rest ↔
      (∃ post, l = rest ++ post ∧ ∀ x ∈ post, p x = true) ∧ ∀ x, rest.getLast? = some x → p x = false := by
  constructor
  · rintro rfl
    refine ⟨⟨l.rtakeWhile p, List.rdropWhile_append_rtakeWhile.symm, fun x hx => List.mem_rtakeWhile_imp hx⟩,
      fun x hx => ?_⟩
    rw [List.rdropWhile, List.getLast?_reverse] at hx
    exact head?_dropWhile hx
  · rintro ⟨⟨post, rfl, hpost⟩, hrest⟩
    rw [rdropWhile_append hpost, rdropWhile_eq_self hrest]

/-- A list without such elements at either end. -/
def trim (p : α → Bool) (l : List α) : List α := (l.rdropWhile p).dropWhile p

/-- What `trim` leaves is the middle, with such elements only around it and none at its own ends. -/
theorem trim_eq_iff {l middle : List α} :
    trim p l = middle ↔
      (∃ before after, l = before ++ middle ++ after ∧ (∀ x ∈ before, p x = true) ∧ ∀ x ∈ after, p x = true) ∧
      (∀ x, middle.head? = some x → p x = false) ∧ ∀ x, middle.getLast? = some x → p x = false := by
  constructor
  · intro h
    obtain ⟨⟨after, hl, hafter⟩, hlast⟩ := rdropWhile_eq_iff.1 (rfl : l.rdropWhile p = l.rdropWhile p)
    obtain ⟨⟨before, hfront, hbefore⟩, hhead⟩ := dropWhile_eq_iff.1 h
    refine ⟨⟨before, after, by rw [← hfront]; exact hl, hbefore, hafter⟩, hhead, fun x hx => hlast x ?_⟩
    rw [hfront, List.getLast?_append, hx]
    rfl
  · rintro ⟨⟨before, after, rfl, hbefore, hafter⟩, hhead, hlast⟩
    rw [trim, rdropWhile_append hafter]
    cases hm : middle.getLast? with
    | none =>
      rw [List.getLast?_eq_none_iff] at hm
      subst hm
      rw [List.append_nil, List.rdropWhile_eq_nil_iff.2 hbefore]
      rfl
    | some x =>
      have hself : (before ++ middle).rdropWhile p = before ++ middle := by
        refine rdropWhile_eq_self fun y hy => hlast y ?_
        rw [List.getLast?_append, hm] at hy
        rw [hm]
        exact hy
      rw [hself, dropWhile_append hbefore, dropWhile_eq_self hhead]

theorem trim_eq_self {l : List α} (h : ∀ x, l.head? = some x ∨ l.getLast? = some x → p x = false) : trim p l = l := by
  rw [trim_eq_iff]
  refine ⟨⟨[], [], by simp, ?_, ?_⟩, fun x hx => h x (Or.inl hx), fun x hx => h x (Or.inr hx)⟩
  · intro x hx
    cases hx
  · intro x hx
    cases hx

theorem trim_trim (l : List α) : trim p (trim p l) = trim p l := by
  obtain ⟨-, hhead, hlast⟩ := trim_eq_iff.1 (rfl : trim p l = trim p l)
  apply trim_eq_self
  intro x hx
  rcases hx with hx | hx
  · exact hhead x hx
  · exact hlast x hx

/-- A block of other elements is set off from what surrounds it in one way only. -/
theorem split_unique {before middle after before' middle' after' : List α}
    (h : before ++ middle ++ after = before' ++ middle' ++ after') (hbefore : ∀ x ∈ before, p x = true)
    (hmiddle : ∀ x ∈ middle, p x = false) (hafter : ∀ x ∈ after, p x = true) (hbefore' : ∀ x ∈ before', p x = true)
    (hmiddle' : ∀ x ∈ middle', p x = false) (hafter' : ∀ x ∈ after', p x = true) (hne : middle ≠ []) (hne' : middle' ≠ []) :
    before = before' ∧ middle = middle' ∧ after = after' := by
  have hfront {before middle after : List α} (hbefore : ∀ x ∈ before, p x = true) (hmiddle : ∀ x ∈ middle, p x = false)
      (hne : middle ≠ []) : (before ++ middle ++ after).takeWhile p = before := by
    rw [List.append_assoc, List.takeWhile_append_of_pos hbefore]
    obtain ⟨x, rest, rfl⟩ := List.exists_cons_of_ne_nil hne
    rw [List.cons_append, List.takeWhile_cons_of_neg (by simp [hmiddle x List.mem_cons_self]), List.append_nil]
  have hcore {before middle after : List α} (hbefore : ∀ x ∈ before, p x = true) (hmiddle : ∀ x ∈ middle, p x = false)
      (hafter : ∀ x ∈ after, p x = true) : trim p (before ++ middle ++ after) = middle :=
    trim_eq_iff.2 ⟨⟨before, after, rfl, hbefore, hafter⟩, fun x hx => hmiddle x (List.mem_of_mem_head? hx),
      fun x hx => hmiddle x (List.mem_of_mem_getLast? hx)⟩
  have hb : before = before' := by rw [← hfront hbefore hmiddle hne, h, hfront hbefore' hmiddle' hne']
  have hm : middle = middle' := by rw [← hcore hbefore hmiddle hafter, h, hcore hbefore' hmiddle' hafter']
  subst hb hm
  exact ⟨rfl, rfl, List.append_cancel_left h⟩

end Trimming
end Graftcode
