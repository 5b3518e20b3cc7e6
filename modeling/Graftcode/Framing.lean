import Mathlib.Data.List.Basic
/-!
# Framing — a byte stream cut into frames

A format says how long the frame is that a buffer starts with, when it starts with a whole one.  Every buffer then is a
list of whole frames and an incomplete rest, in one way only (`splits_iff`), and a parser that takes whole frames off
its front leaves the same list behind whatever the pieces in which the stream came (`frames_append`).
-/
namespace Graftcode

/-- The length of the whole frame at the front of a buffer; what follows the frame does not matter. -/
structure Framing (α : Type) where
  next : List α → Option Nat
  pos : ∀ {buffer n}, next buffer = some n → 0 < n
  le : ∀ {buffer n}, next buffer = some n → n ≤ buffer.length
  take : ∀ {buffer n}, next buffer = some n → next (buffer.take n) = some n
  append : ∀ {buffer n}, next buffer = some n → ∀ more, next (buffer ++ more) = some n

namespace Framing

variable {α : Type} (F : Framing α)

/-- One whole frame and nothing else. -/
def IsFrame (frame : List α) : Prop := F.next frame = some frame.length

/-- `buffer` is the whole frames `frames`, then `rest`, which starts with no whole frame. -/
structure Splits (buffer : List α) (frames : List (List α)) (rest : List α) : Prop where
  whole : ∀ frame ∈ frames, F.IsFrame frame
  flatten : frames.flatten ++ rest = buffer
  incomplete : F.next rest = none

/-- The whole frames of a buffer and its incomplete rest, for as many frames as there is fuel. -/
def split : Nat → List α → List (List α) × List α
  | 0, buffer => ([], buffer)
  | fuel + 1, buffer =>
    match F.next buffer with
    | none   => ([], buffer)
    | some n => (buffer.take n :: (split fuel (buffer.drop n)).1, (split fuel (buffer.drop n)).2)

def frames (buffer : List α) : List (List α) := (F.split buffer.length buffer).1

def rest (buffer : List α) : List α := (F.split buffer.length buffer).2

theorem next_nil : F.next [] = none := by
  cases h : F.next [] with
  | none => rfl
  | some n =>
    have hpos := F.pos h
    have hle := F.le h
    rw [List.length_nil] at hle
    omega

theorem splits_split : ∀ (fuel : Nat) (buffer : List α), buffer.length ≤ fuel →
    F.Splits buffer (F.split fuel buffer).1 (F.split fuel buffer).2
  | 0, buffer, h => by
    have hnil : buffer = [] := List.length_eq_zero_iff.1 (Nat.le_zero.1 h)
    subst hnil
    exact ⟨fun _ hf => absurd hf List.not_mem_nil, rfl, F.next_nil⟩
  | fuel + 1, buffer, h => by
    cases hn : F.next buffer with
    | none =>
      simp only [split, hn]
      exact ⟨fun _ hf => absurd hf List.not_mem_nil, rfl, hn⟩
    | some n =>
      have hpos := F.pos hn
      have hle := F.le hn
      have hlen : (buffer.drop n).length ≤ fuel := by
        rw [List.length_drop]
        omega
      have ih := splits_split fuel (buffer.drop n) hlen
      simp only [split, hn]
      refine ⟨fun frame hf => ?_, ?_, ih.incomplete⟩
      · rcases List.mem_cons.1 hf with rfl | hf
        · have hframe : (buffer.take n).length = n := List.length_take_of_le hle
          unfold IsFrame
          rw [hframe]
          exact F.take hn
        · exact ih.whole frame hf
      · rw [List.flatten_cons, List.append_assoc, ih.flatten, List.take_append_drop]

/-- A buffer splits in one way only. -/
theorem Splits.unique {buffer : List α} : ∀ {fs gs : List (List α)} {r s : List α}, F.Splits buffer fs r →
    F.Splits buffer gs s → fs = gs ∧ r = s := by
  intro fs
  induction fs generalizing buffer with
  | nil =>
    intro gs r s h h'
    have hr : r = buffer := h.flatten
    subst hr
    cases gs with
    | nil => exact ⟨rfl, h'.flatten.symm⟩
    | cons g gs =>
      -- the first frame of the other split would be one of `r`
      have hg := F.append (h'.whole g List.mem_cons_self) (gs.flatten ++ s)
      rw [← List.append_assoc, ← List.flatten_cons, h'.flatten, h.incomplete] at hg
      cases hg
  | cons f fs ih =>
    intro gs r s h h'
    have hf := F.append (h.whole f List.mem_cons_self) (fs.flatten ++ r)
    rw [← List.append_assoc, ← List.flatten_cons, h.flatten] at hf
    cases gs with
    | nil =>
      have hs : s = buffer := h'.flatten
      subst hs
      rw [h'.incomplete] at hf
      cases hf
    | cons g gs =>
      have hg := F.append (h'.whole g List.mem_cons_self) (gs.flatten ++ s)
      rw [← List.append_assoc, ← List.flatten_cons, h'.flatten] at hg
      have hlen : f.length = g.length := Option.some.inj (hf.symm.trans hg)
      have heq : f ++ (fs.flatten ++ r) = g ++ (gs.flatten ++ s) := by
        rw [← List.append_assoc, ← List.append_assoc, ← List.flatten_cons, ← List.flatten_cons, h.flatten, h'.flatten]
      obtain ⟨rfl, htail⟩ := List.append_inj heq hlen
      have hfs : F.Splits (fs.flatten ++ r) fs r :=
        ⟨fun frame hm => h.whole frame (List.mem_cons_of_mem _ hm), rfl, h.incomplete⟩
      have hgs : F.Splits (fs.flatten ++ r) gs s :=
        ⟨fun frame hm => h'.whole frame (List.mem_cons_of_mem _ hm), htail.symm, h'.incomplete⟩
      obtain ⟨rfl, rfl⟩ := ih hfs hgs
      exact ⟨rfl, rfl⟩

theorem splits_iff {buffer : List α} {fs : List (List α)} {r : List α} :
    F.Splits buffer fs r ↔ fs = F.frames buffer ∧ r = F.rest buffer := by
  have hsplit := F.splits_split buffer.length buffer (Nat.le_refl _)
  constructor
  · exact fun h => h.unique F hsplit
  · rintro ⟨rfl, rfl⟩
    exact hsplit

/-- What a call of a parser may take off a buffer: whole frames, and none at all only when there is none. -/
structure Consumes (buffer : List α) (n : Nat) : Prop where
  le : n ≤ buffer.length
  whole : ∃ frames : List (List α), (∀ frame ∈ frames, F.IsFrame frame) ∧ frames.flatten = buffer.take n
  zero : n = 0 → F.next buffer = none

theorem Consumes.splits {buffer : List α} {n : Nat} (h : F.Consumes buffer n) :
    F.Splits (buffer.take n) (F.frames (buffer.take n)) [] := by
  obtain ⟨fs, hwhole, hflat⟩ := h.whole
  have hs : F.Splits (buffer.take n) fs [] := ⟨hwhole, by rw [List.append_nil, hflat], F.next_nil⟩
  obtain ⟨hfs, hrest⟩ := F.splits_iff.1 hs
  rw [hfs] at hs
  exact hs

/-! ## Feeding a parser -/

variable {Ev : Type}

/-- How the events of a loop feed a parser: the bytes that came in, the buffer that a call was given and what it returned,
and the events at which the loop waits for more. -/
structure Feed (Ev α : Type) where
  chunk : Ev → List α
  given : Ev → Option (List α)
  parsed : Ev → Option (List α × Nat)
  waits : Ev → Bool

variable (feed : Feed Ev α)

/-- The bytes that a trace has received. -/
def received (t : List Ev) : List α := t.flatMap feed.chunk

/-- The frames in what one call took. -/
def framesOf (e : Ev) : List (List α) :=
  match feed.parsed e with
  | some (buffer, n) => F.frames (buffer.take n)
  | none             => []

/-- The frames that a trace has handed to the parser, in order. -/
def handed (t : List Ev) : List (List α) := t.flatMap (F.framesOf feed)

/-- The frames handed over and the bytes still in the buffer are the bytes received: none is lost, repeated or moved. -/
structure Accounts (t : List Ev) (buffer : List α) : Prop where
  whole : ∀ frame ∈ F.handed feed t, F.IsFrame frame
  flatten : (F.handed feed t).flatten ++ buffer = received feed t

theorem accounts_nil : F.Accounts feed [] [] := ⟨fun _ h => absurd h List.not_mem_nil, rfl⟩

/-- With an incomplete buffer the frames handed over are those of the stream. -/
theorem Accounts.drained {t : List Ev} {buffer : List α} (h : F.Accounts feed t buffer) (hnone : F.next buffer = none) :
    F.handed feed t = F.frames (received feed t) ∧ buffer = F.rest (received feed t) :=
  F.splits_iff.1 ⟨h.whole, h.flatten, hnone⟩

variable {F feed}

theorem Accounts.silent {t : List Ev} {buffer : List α} (h : F.Accounts feed t buffer) {e : Ev}
    (hchunk : feed.chunk e = []) (hparsed : feed.parsed e = none) : F.Accounts feed (t ++ [e]) buffer := by
  have hframes : F.framesOf feed e = [] := by rw [framesOf, hparsed]
  have hhanded : F.handed feed (t ++ [e]) = F.handed feed t := by
    rw [handed, List.flatMap_append, List.flatMap_singleton, hframes, List.append_nil, handed]
  have hreceived : received feed (t ++ [e]) = received feed t := by
    rw [received, List.flatMap_append, List.flatMap_singleton, hchunk, List.append_nil, received]
  exact ⟨by rw [hhanded]; exact h.whole, by rw [hhanded, hreceived]; exact h.flatten⟩

theorem Accounts.receive {t : List Ev} {buffer chunk : List α} (h : F.Accounts feed t buffer) {e : Ev}
    (hchunk : feed.chunk e = chunk) (hparsed : feed.parsed e = none) : F.Accounts feed (t ++ [e]) (buffer ++ chunk) := by
  have hframes : F.framesOf feed e = [] := by rw [framesOf, hparsed]
  have hhanded : F.handed feed (t ++ [e]) = F.handed feed t := by
    rw [handed, List.flatMap_append, List.flatMap_singleton, hframes, List.append_nil, handed]
  refine ⟨by rw [hhanded]; exact h.whole, ?_⟩
  rw [hhanded, ← List.append_assoc, h.flatten, received, received, List.flatMap_append, List.flatMap_singleton, hchunk]

theorem Accounts.parse {t : List Ev} {buffer : List α} (h : F.Accounts feed t buffer) {e : Ev} {n : Nat}
    (hchunk : feed.chunk e = []) (hparsed : feed.parsed e = some (buffer, n)) (hn : F.Consumes buffer n) :
    F.Accounts feed (t ++ [e]) (buffer.drop n) := by
  have hframes : F.framesOf feed e = F.frames (buffer.take n) := by rw [framesOf, hparsed]
  have hsplits := hn.splits
  have hhanded : F.handed feed (t ++ [e]) = F.handed feed t ++ F.frames (buffer.take n) := by
    rw [handed, List.flatMap_append, List.flatMap_singleton, hframes, handed]
  have htake : (F.frames (buffer.take n)).flatten = buffer.take n := by
    have := hsplits.flatten
    rwa [List.append_nil] at this
  constructor
  · intro frame hf
    rw [hhanded, List.mem_append] at hf
    rcases hf with hf | hf
    · exact h.whole frame hf
    · exact hsplits.whole frame hf
  · rw [hhanded, List.flatten_append, htake, List.append_assoc, List.take_append_drop, h.flatten, received, received,
      List.flatMap_append, List.flatMap_singleton, hchunk, List.append_nil]

variable (F feed)

/-- The parser returned the length of whole frames. -/
def Obeys (e : Ev) : Prop := ∀ buffer n, feed.parsed e = some (buffer, n) → F.Consumes buffer n

/-- What a loop owes at an event after the trace `t`: a call is given all bytes that no call has taken yet, and the loop
waits only when every whole frame received has been handed over. -/
structure Owes (t : List Ev) (e : Ev) : Prop where
  call : ∀ buffer, feed.given e = some buffer → buffer ≠ [] ∧ F.Accounts feed t buffer
  wait : feed.waits e = true → F.handed feed t = F.frames (received feed t)

variable {F feed}

theorem owes_quiet {t : List Ev} {e : Ev} (hgiven : feed.given e = none) (hwaits : feed.waits e = false) :
    F.Owes feed t e := by
  constructor
  · intro buffer h
    rw [hgiven] at h
    cases h
  · intro h
    rw [hwaits] at h
    cases h

theorem Accounts.owes_call {t : List Ev} {buffer : List α} (h : F.Accounts feed t buffer) (hne : buffer ≠ []) {e : Ev}
    (hgiven : feed.given e = some buffer) (hwaits : feed.waits e = false) : F.Owes feed t e := by
  constructor
  · intro buffer' h'
    rw [hgiven] at h'
    cases h'
    exact ⟨hne, h⟩
  · intro h'
    rw [hwaits] at h'
    cases h'

theorem Accounts.owes_wait {t : List Ev} {buffer : List α} (h : F.Accounts feed t buffer)
    (hnone : F.next buffer = none) {e : Ev} (hgiven : feed.given e = none) : F.Owes feed t e := by
  constructor
  · intro buffer' h'
    rw [hgiven] at h'
    cases h'
  · exact fun _ => (h.drained F feed hnone).1

/-- What is kept after a chunk is the incomplete rest: the next call is given just that and the next chunk. -/
theorem Owes.kept {t mid : List Ev} {e e' : Ev} {buffer : List α} (hwait : F.Owes feed t e) (hwaits : feed.waits e = true)
    (hmid : ∀ x ∈ e :: mid, feed.parsed x = none) (hquiet : ∀ x ∈ mid, feed.chunk x = [])
    (hcall : F.Owes feed (t ++ e :: mid) e') (hgiven : feed.given e' = some buffer) :
    buffer = F.rest (received feed t) ++ feed.chunk e := by
  have hnil : (e :: mid).flatMap (F.framesOf feed) = [] := by
    refine List.flatMap_eq_nil_iff.2 fun x hx => ?_
    rw [framesOf, hmid x hx]
  have hchunks : (e :: mid).flatMap feed.chunk = feed.chunk e := by
    rw [List.flatMap_cons, List.flatMap_eq_nil_iff.2 hquiet, List.append_nil]
  have hflat := (hcall.call buffer hgiven).2.flatten
  rw [handed, received, List.flatMap_append, List.flatMap_append, hnil, hchunks, List.append_nil] at hflat
  have hframes := hwait.wait hwaits
  have hsplits := (F.splits_iff.2 ⟨rfl, rfl⟩ : F.Splits (received feed t) _ _).flatten
  rw [← hframes] at hsplits
  rw [← received, ← hsplits, List.append_assoc] at hflat
  exact List.append_cancel_left hflat

variable (F feed)

/-- The trace of a loop that hands over the frames of its stream and keeps the incomplete rest after each chunk. -/
structure Faithful (t : List Ev) : Prop where
  owes : ∀ pre e post, t = pre ++ e :: post → F.Owes feed pre e
  kept : ∀ pre e mid e' post buffer, t = pre ++ e :: (mid ++ e' :: post) → feed.waits e = true →
    (∀ x ∈ e :: mid, feed.parsed x = none) → (∀ x ∈ mid, feed.chunk x = []) → feed.given e' = some buffer →
      buffer = F.rest (received feed pre) ++ feed.chunk e

variable {F feed}

theorem faithful_of_owes {t : List Ev} (h : ∀ pre e post, t = pre ++ e :: post → F.Owes feed pre e) :
    F.Faithful feed t := by
  refine ⟨h, fun pre e mid e' post buffer ht hwaits hmid hquiet hgiven => ?_⟩
  have hcall : F.Owes feed (pre ++ e :: mid) e' := h (pre ++ e :: mid) e' post (by rw [ht]; simp)
  exact (h pre e _ ht).kept hwaits hmid hquiet hcall hgiven

end Framing
end Graftcode
