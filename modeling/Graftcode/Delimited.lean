import Mathlib.Data.List.Basic
/-!
# Delimited — texts of quotes, brackets and separators

A scanner reads on from inside a value and stops at the separator or the closing bracket that ends it.  A text that the
scanner passes leaves it where it was, so the scanner stops right behind a value that it passes and nowhere else: values
with separators between them can be read back from their text in one way only.
-/
namespace Graftcode
namespace Delimited

/-- What a symbol is to the scanner. -/
inductive Mark where
  | quote
  | escape
  | opening
  | closing
  | separator
  | plain
  deriving DecidableEq

inductive Mode where
  | bare (depth : Nat)
  | quoted (depth : Nat)
  | escaped (depth : Nat)

/-- How the scanner reads a symbol; it stops at none but those that end the value it is in. -/
def Mode.next : Mode → Mark → Option Mode
  | .bare depth, .quote           => some (.quoted depth)
  | .bare depth, .opening         => some (.bare (depth + 1))
  | .bare 0, .closing             => none
  | .bare (depth + 1), .closing   => some (.bare depth)
  | .bare 0, .separator           => none
  | .bare (depth + 1), .separator => some (.bare (depth + 1))
  | .bare depth, _                => some (.bare depth)
  | .quoted depth, .quote         => some (.bare depth)
  | .quoted depth, .escape        => some (.escaped depth)
  | .quoted depth, _              => some (.quoted depth)
  | .escaped depth, _             => some (.quoted depth)

section Scanner

variable {α : Type*} (mark : α → Mark)

/-- What is left of a text at the separator or the closing bracket that ends the value the scanner is in. -/
def beyond : Mode → List α → List α
  | _, []           => []
  | mode, a :: rest =>
    match mode.next (mark a) with
    | some mode => beyond mode rest
    | none      => a :: rest

/-- The scanner is behind the text as it was before it. -/
def Passes (v : List α) : Prop := ∀ depth rest, beyond mark (.bare depth) (v ++ rest) = beyond mark (.bare depth) rest

def PassesInside (v : List α) : Prop :=
  ∀ depth rest, beyond mark (.bare (depth + 1)) (v ++ rest) = beyond mark (.bare (depth + 1)) rest

def PassesQuoted (v : List α) : Prop :=
  ∀ depth rest, beyond mark (.quoted depth) (v ++ rest) = beyond mark (.quoted depth) rest

def Stops (a : α) : Prop := mark a = .separator ∨ mark a = .closing

end Scanner

section Passing

variable {α : Type*} {mark : α → Mark} {v v' : List α}

theorem beyond_next {mode mode' : Mode} {a : α} (h : mode.next (mark a) = some mode') (rest : List α) :
    beyond mark mode (a :: rest) = beyond mark mode' rest := by
  rw [beyond, h]

theorem beyond_stop {mode : Mode} {a : α} (h : mode.next (mark a) = none) (rest : List α) :
    beyond mark mode (a :: rest) = a :: rest := by
  rw [beyond, h]

theorem passes_nil : Passes mark [] := fun _ _ => rfl

theorem Passes.append (h : Passes mark v) (h' : Passes mark v') : Passes mark (v ++ v') := by
  intro depth rest
  rw [List.append_assoc, h, h']

theorem passes_of_plain : ∀ {v : List α}, (∀ a ∈ v, mark a = .plain) → Passes mark v
  | [], _ => passes_nil
  | a :: v, h => by
    intro depth rest
    have hnext : (Mode.bare depth).next (mark a) = some (.bare depth) := by rw [h a List.mem_cons_self]; rfl
    rw [List.cons_append, beyond_next hnext]
    exact passes_of_plain (fun b hb => h b (List.mem_cons_of_mem a hb)) depth rest

theorem Passes.inside (h : Passes mark v) : PassesInside mark v := fun depth rest => h (depth + 1) rest

theorem PassesInside.append (h : PassesInside mark v) (h' : PassesInside mark v') : PassesInside mark (v ++ v') := by
  intro depth rest
  rw [List.append_assoc, h, h']

theorem passesInside_separator {a : α} (h : mark a = .separator) : PassesInside mark [a] := by
  intro depth rest
  have hnext : (Mode.bare (depth + 1)).next (mark a) = some (.bare (depth + 1)) := by rw [h]; rfl
  rw [List.singleton_append, beyond_next hnext]

theorem PassesInside.bracketed {opening closing : α} (ho : mark opening = .opening) (hc : mark closing = .closing)
    (h : PassesInside mark v) : Passes mark (opening :: v ++ [closing]) := by
  intro depth rest
  have hopen : (Mode.bare depth).next (mark opening) = some (.bare (depth + 1)) := by rw [ho]; rfl
  have hclose : (Mode.bare (depth + 1)).next (mark closing) = some (.bare depth) := by rw [hc]; rfl
  rw [List.cons_append, List.cons_append, beyond_next hopen, List.append_assoc, h, List.singleton_append,
    beyond_next hclose]

theorem passesQuoted_nil : PassesQuoted mark [] := fun _ _ => rfl

theorem PassesQuoted.append (h : PassesQuoted mark v) (h' : PassesQuoted mark v') : PassesQuoted mark (v ++ v') := by
  intro depth rest
  rw [List.append_assoc, h, h']

theorem passesQuoted_singleton {a : α} (hq : mark a ≠ .quote) (he : mark a ≠ .escape) : PassesQuoted mark [a] := by
  intro depth rest
  have hnext : (Mode.quoted depth).next (mark a) = some (.quoted depth) := by
    cases hm : mark a with
    | quote  => exact absurd hm hq
    | escape => exact absurd hm he
    | _      => rfl
  rw [List.singleton_append, beyond_next hnext]

/-- What follows an escape is passed over, whatever it is. -/
theorem passesQuoted_escape {a : α} (b : α) (h : mark a = .escape) : PassesQuoted mark [a, b] := by
  intro depth rest
  have hnext : (Mode.quoted depth).next (mark a) = some (.escaped depth) := by rw [h]; rfl
  have hback : (Mode.escaped depth).next (mark b) = some (.quoted depth) := rfl
  rw [List.cons_append, List.singleton_append, beyond_next hnext, beyond_next hback]

theorem PassesQuoted.quoted {quote : α} (hq : mark quote = .quote) (h : PassesQuoted mark v) :
    Passes mark (quote :: v ++ [quote]) := by
  intro depth rest
  have hopen : (Mode.bare depth).next (mark quote) = some (.quoted depth) := by rw [hq]; rfl
  have hclose : (Mode.quoted depth).next (mark quote) = some (.bare depth) := by rw [hq]; rfl
  rw [List.cons_append, List.cons_append, beyond_next hopen, List.append_assoc, h, List.singleton_append,
    beyond_next hclose]

/-! ## Reading back -/

theorem beyond_of_stops {a : α} (h : Stops mark a) (rest : List α) : beyond mark (.bare 0) (a :: rest) = a :: rest := by
  apply beyond_stop
  rcases h with h | h <;> rw [h] <;> rfl

/-- The value that a text begins with is one only. -/
theorem Passes.unique (h : Passes mark v) (h' : Passes mark v') {a a' : α} (ha : Stops mark a) (ha' : Stops mark a')
    {rest rest' : List α} (heq : v ++ a :: rest = v' ++ a' :: rest') : v = v' ∧ a = a' ∧ rest = rest' := by
  have hbeyond := congrArg (beyond mark (.bare 0)) heq
  rw [h, h', beyond_of_stops ha, beyond_of_stops ha'] at hbeyond
  rw [hbeyond] at heq
  exact ⟨List.append_cancel_right heq, List.cons.inj hbeyond⟩

end Passing

/-! ## Values with separators between them -/

/-- Values with a separator between any two, and one before the first when something stands before. -/
def joined {α : Type*} (separator : α) : Bool → List (List α) → List α
  | _, []               => []
  | hasContent, v :: vs => (if hasContent then [separator] else []) ++ v ++ joined separator true vs

section Joined

variable {α : Type*} {mark : α → Mark} {separator : α}

theorem joined_snoc : ∀ (hasContent : Bool) (vs : List (List α)) (v : List α), joined separator hasContent (vs ++ [v]) =
    joined separator hasContent vs ++ (if hasContent || !vs.isEmpty then [separator] else []) ++ v
  | hasContent, [], v      => by cases hasContent <;> simp [joined]
  | hasContent, x :: vs, v => by
    rw [List.cons_append, joined, joined_snoc true vs v, joined]
    simp

theorem passesInside_joined (hsep : mark separator = .separator) : ∀ (hasContent : Bool) (vs : List (List α)),
    (∀ v ∈ vs, Passes mark v) → PassesInside mark (joined separator hasContent vs)
  | _, [], _ => fun _ _ => rfl
  | hasContent, v :: vs, h => by
    have hrest := passesInside_joined hsep true vs fun u hu => h u (List.mem_cons_of_mem v hu)
    have hfirst := (h v List.mem_cons_self).inside
    rw [joined]
    cases hasContent with
    | false => exact hfirst.append hrest
    | true  => exact ((passesInside_separator hsep).append hfirst).append hrest

/-- Whatever comes behind a value stops the scanner. -/
theorem joined_true_stops (hsep : mark separator = .separator) {closing : α} (hc : mark closing = .closing)
    (vs : List (List α)) (rest : List α) :
    ∃ a more, joined separator true vs ++ closing :: rest = a :: more ∧ Stops mark a := by
  cases vs with
  | nil => exact ⟨closing, rest, rfl, Or.inr hc⟩
  | cons v vs =>
    exact ⟨separator, v ++ joined separator true vs ++ closing :: rest, by simp [joined], Or.inl hsep⟩

theorem joined_true_unique (hsep : mark separator = .separator) {closing : α} (hc : mark closing = .closing) :
    ∀ (vs us : List (List α)) {rest rest' : List α}, (∀ v ∈ vs, Passes mark v) → (∀ u ∈ us, Passes mark u) →
      joined separator true vs ++ closing :: rest = joined separator true us ++ closing :: rest' → vs = us
  | [], [], _, _, _, _, _ => rfl
  | [], u :: us, _, _, _, _, heq => by
    rw [joined, joined] at heq
    have hmark : closing = separator := (List.cons.inj heq).1
    rw [hmark, hsep] at hc
    cases hc
  | v :: vs, [], _, _, _, _, heq => by
    rw [joined, joined] at heq
    have hmark : separator = closing := (List.cons.inj heq).1
    rw [← hmark, hsep] at hc
    cases hc
  | v :: vs, u :: us, rest, rest', hv, hu, heq => by
    obtain ⟨a, more, hmore, ha⟩ := joined_true_stops hsep hc vs rest
    obtain ⟨a', more', hmore', ha'⟩ := joined_true_stops hsep hc us rest'
    simp only [joined, if_true, List.append_assoc, List.cons_append, List.nil_append, List.cons.injEq, true_and,
      hmore, hmore'] at heq
    obtain ⟨rfl, rfl, rfl⟩ := (hv v List.mem_cons_self).unique (hu u List.mem_cons_self) ha ha' heq
    have hvs : ∀ x ∈ vs, Passes mark x := fun x hx => hv x (List.mem_cons_of_mem v hx)
    have hus : ∀ x ∈ us, Passes mark x := fun x hx => hu x (List.mem_cons_of_mem v hx)
    rw [joined_true_unique hsep hc vs us hvs hus (hmore.trans hmore'.symm)]

/-- **Values are read back from their text in one way**, if none of them is empty. -/
theorem joined_unique (hsep : mark separator = .separator) {closing : α} (hc : mark closing = .closing)
    {vs us : List (List α)} (hv : ∀ v ∈ vs, Passes mark v ∧ v ≠ []) (hu : ∀ u ∈ us, Passes mark u ∧ u ≠ [])
    (heq : joined separator false vs ++ [closing] = joined separator false us ++ [closing]) : vs = us := by
  have hempty : ∀ {x : List α} {xs : List (List α)}, Passes mark x → x ≠ [] →
      joined separator false (x :: xs) ++ [closing] ≠ [closing] := by
    intro x xs hx hne heq
    obtain ⟨a, more, hmore, ha⟩ := joined_true_stops hsep hc xs []
    rw [joined, if_neg Bool.false_ne_true, List.nil_append, List.append_assoc, hmore] at heq
    exact hne (hx.unique passes_nil ha (Or.inr hc) heq).1
  cases vs with
  | nil =>
    cases us with
    | nil => rfl
    | cons u us =>
      obtain ⟨hpass, hne⟩ := hu u List.mem_cons_self
      exact absurd heq.symm (hempty hpass hne)
  | cons v vs =>
    cases us with
    | nil =>
      obtain ⟨hpass, hne⟩ := hv v List.mem_cons_self
      exact absurd heq (hempty hpass hne)
    | cons u us =>
      have htrue : joined separator true (v :: vs) ++ [closing] = joined separator true (u :: us) ++ [closing] := by
        have := congrArg (separator :: ·) heq
        simpa only [joined, if_true, Bool.false_eq_true, if_false, List.nil_append, List.cons_append,
          List.append_assoc] using this
      exact joined_true_unique hsep hc _ _ (fun x hx => (hv x hx).1) (fun x hx => (hu x hx).1) htrue

end Joined

end Delimited
end Graftcode
