import Mathlib.Data.List.Nodup
/-!
# Dict — a map as the list of its entries

A key has one entry.  Putting a value under a key that is there keeps its place, under any other adds it at the end.
-/
namespace Graftcode

structure Dict (κ α : Type) where
  entries : List (κ × α)
  nodup   : (entries.map Prod.fst).Nodup

namespace Dict

variable {κ α : Type}

def empty : Dict κ α := ⟨[], List.nodup_nil⟩

def values (d : Dict κ α) : List α := d.entries.map Prod.snd

variable [DecidableEq κ]

def get? (d : Dict κ α) (key : κ) : Option α := d.entries.lookup key

def putEntry (key : κ) (value : α) : List (κ × α) → List (κ × α)
  | [] => [(key, value)]
  | (k, v) :: rest => if k = key then (key, value) :: rest else (k, v) :: putEntry key value rest

theorem keys_putEntry (key : κ) (value : α) : ∀ entries : List (κ × α), (putEntry key value entries).map Prod.fst =
    if key ∈ entries.map Prod.fst then entries.map Prod.fst else entries.map Prod.fst ++ [key]
  | [] => rfl
  | (k, v) :: rest => by
    rw [putEntry]
    by_cases hk : k = key
    · simp [hk]
    · rw [if_neg hk, List.map_cons, keys_putEntry key value rest, List.map_cons]
      by_cases hmem : key ∈ rest.map Prod.fst
      · rw [if_pos hmem, if_pos (List.mem_cons_of_mem k hmem)]
      · rw [if_neg hmem, if_neg (List.not_mem_cons_of_ne_of_not_mem (Ne.symm hk) hmem)]
        rfl

def put (d : Dict κ α) (key : κ) (value : α) : Dict κ α where
  entries := putEntry key value d.entries
  nodup := by
    rw [keys_putEntry]
    by_cases hmem : key ∈ d.entries.map Prod.fst
    · rw [if_pos hmem]
      exact d.nodup
    · rw [if_neg hmem]
      exact List.nodup_append.2 ⟨d.nodup, List.nodup_singleton key, by
        intro a ha b hb heq
        rw [List.mem_singleton.1 hb] at heq
        exact hmem (heq ▸ ha)⟩

@[simp] theorem get?_empty (key : κ) : (empty : Dict κ α).get? key = none := rfl

theorem lookup_cons_ne {key k : κ} (h : key ≠ k) (value : α) (entries : List (κ × α)) :
    ((k, value) :: entries).lookup key = entries.lookup key := by
  rw [List.lookup_cons, beq_false_of_ne h]

theorem lookup_putEntry (key : κ) (value : α) (k : κ) : ∀ entries : List (κ × α),
    (putEntry key value entries).lookup k = if k = key then some value else entries.lookup k
  | [] => by
    by_cases hk : k = key
    · subst hk
      rw [if_pos rfl, putEntry, List.lookup_cons_self]
    · rw [if_neg hk, putEntry, lookup_cons_ne hk]
  | (k', v') :: rest => by
    have ih := lookup_putEntry key value k rest
    rw [putEntry]
    by_cases hk' : k' = key
    · subst hk'
      rw [if_pos rfl]
      by_cases hk : k = k'
      · rw [if_pos hk, hk, List.lookup_cons_self]
      · rw [if_neg hk, lookup_cons_ne hk, lookup_cons_ne hk]
    · rw [if_neg hk']
      by_cases hk : k = k'
      · rw [hk, List.lookup_cons_self, List.lookup_cons_self, if_neg hk']
      · rw [lookup_cons_ne hk, lookup_cons_ne hk, ih]

theorem get?_put (d : Dict κ α) (key : κ) (value : α) (k : κ) :
    (d.put key value).get? k = if k = key then some value else d.get? k := lookup_putEntry key value k d.entries

theorem get?_eq_some_iff (d : Dict κ α) (key : κ) (value : α) : d.get? key = some value ↔ (key, value) ∈ d.entries := by
  obtain ⟨entries, hnodup⟩ := d
  unfold get?
  induction entries with
  | nil => simp
  | cons entry rest ih =>
    obtain ⟨k, v⟩ := entry
    rw [List.map_cons, List.nodup_cons] at hnodup
    rw [List.mem_cons, Prod.mk.injEq]
    by_cases hk : key = k
    · subst hk
      have hnot : (key, value) ∉ rest := fun hmem => hnodup.1 (List.mem_map.2 ⟨_, hmem, rfl⟩)
      simp [List.lookup_cons_self, hnot, eq_comm]
    · rw [lookup_cons_ne hk, ih hnodup.2]
      simp [hk]

theorem mem_values_iff (d : Dict κ α) (value : α) : value ∈ d.values ↔ ∃ key, d.get? key = some value := by
  rw [values, List.mem_map]
  constructor
  · rintro ⟨⟨key, _⟩, hmem, rfl⟩
    exact ⟨key, (get?_eq_some_iff d key _).2 hmem⟩
  · rintro ⟨key, hget⟩
    exact ⟨(key, value), (get?_eq_some_iff d key value).1 hget, rfl⟩

end Dict
end Graftcode
