import Graftcode.Rounding
import Mathlib.Data.Rat.Floor
import Mathlib.Data.List.Basic
import Mathlib.Tactic.Linarith
import Mathlib.Tactic.Positivity
import Mathlib.Algebra.Order.Archimedean.Basic
/-!
# RateLimitedSampler — the samplers of the Python and Java connectors

`RateLimitedSampler.py` and `RateLimitedSampler.java`.  A sampler is a token bucket that every new span asks once, under a
lock; the decision never looks at the trace id.  `elapsed now last` is the time in seconds between two clock readings,
the only part in which the two siblings differ.  `R` rounds what they compute; doubles are one such arithmetic, the exact
one is another.
-/
namespace Graftcode
namespace AppInsights

inductive Decision where
  | recordAndSample
  | drop
  deriving DecidableEq, Repr

structure RateLimitedSampler (Clock : Type) where
  tracesPerSecond : ℚ
  capacity : ℚ
  tokens : ℚ
  lastRefill : Clock

namespace RateLimitedSampler

variable {Clock TraceId : Type} (R : Rounding)

/-- The constructor, at a clock reading. -/
def new (tracesPerSecond : ℚ) (now : Clock) : RateLimitedSampler Clock :=
  { tracesPerSecond, capacity := max 1 tracesPerSecond, tokens := max 1 tracesPerSecond, lastRefill := now }

/-- The tokens once the bucket has been refilled. -/
def refilled (elapsed : Clock → Clock → ℚ) (s : RateLimitedSampler Clock) (now : Clock) : ℚ :=
  min s.capacity (R.round (s.tokens + R.round (elapsed now s.lastRefill * s.tracesPerSecond)))

def tryAcquire (elapsed : Clock → Clock → ℚ) (s : RateLimitedSampler Clock) (now : Clock) :
    Bool × RateLimitedSampler Clock :=
  let tokens := s.refilled R elapsed now
  let s := { s with tokens, lastRefill := now }
  if tokens < 1 then (false, s) else (true, { s with tokens := R.round (tokens - 1) })

/-- `should_sample`: the trace id is a parameter that nothing reads. -/
def shouldSample (elapsed : Clock → Clock → ℚ) (s : RateLimitedSampler Clock) (now : Clock) (_traceId : TraceId) :
    Decision × RateLimitedSampler Clock :=
  match s.tryAcquire R elapsed now with
  | (true, s)  => (.recordAndSample, s)
  | (false, s) => (.drop, s)

/-- Python: `time.monotonic()`, in seconds. -/
def pythonElapsed (now lastRefill : ℚ) : ℚ := R.round (now - lastRefill)

/-- Java: `(now - lastRefillNanos) / 1_000_000_000.0`, the `long` made a double first. -/
def javaElapsed (now lastRefillNanos : ℤ) : ℚ := R.round (R.round (now - lastRefillNanos : ℤ) / 1000000000)

/-! ## Runs -/

variable (elapsed : Clock → Clock → ℚ)

/-- The decisions of a sequence of calls. -/
def decisions : RateLimitedSampler Clock → List (Clock × TraceId) → List Decision
  | _, [] => []
  | s, (now, traceId) :: calls =>
    let (decision, s) := s.shouldSample R elapsed now traceId
    decision :: decisions s calls

/-- The sampler after a sequence of calls. -/
def after : RateLimitedSampler Clock → List (Clock × TraceId) → RateLimitedSampler Clock
  | s, [] => s
  | s, (now, traceId) :: calls => after (s.shouldSample R elapsed now traceId).2 calls

/-- Any two calls with one trace id receive the same decision. -/
def Consistent (s : RateLimitedSampler Clock) (calls : List (Clock × TraceId)) : Prop :=
  ∀ (i j : Nat) (x y : Clock × TraceId), calls[i]? = some x → calls[j]? = some y → x.2 = y.2 →
    (decisions R elapsed s calls)[i]? = (decisions R elapsed s calls)[j]?

/-- With nothing refilled the full bucket pays for call `k` of a sequence: the calls before it take one token each. -/
def PaidFor (tracesPerSecond : ℚ) (k : Nat) : Prop := 1 ≤ R.countdown (max 1 tracesPerSecond) k

/-- Clock readings that never go back, from the one of the constructor on. -/
def NonDecreasing [LE Clock] (start : Clock) (readings : List Clock) : Prop := (start :: readings).Pairwise (· ≤ ·)

/-- What a clock's readings measure: time that does not run back, and as much of it as one likes. -/
structure Measures [LE Clock] : Prop where
  nonneg : ∀ {now last : Clock}, last ≤ now → 0 ≤ elapsed now last
  self : ∀ t : Clock, elapsed t t = 0
  far : ∀ (t : Clock) (x : ℚ), ∃ t', t ≤ t' ∧ x ≤ elapsed t' t

/-- Python's readings are numbers. -/
theorem measures_python : Measures fun now last : R.Number => pythonElapsed R now.1 last.1 where
  nonneg h := Rounding.round_nonneg (sub_nonneg.2 h)
  self t := by rw [pythonElapsed, sub_self, R.zero]
  far t x := by
    obtain ⟨y, hy⟩ := R.unbounded x
    obtain ⟨z, hz⟩ := R.unbounded (t.1 + y)
    have hlater : t.1 ≤ max t.1 (R.round z) := le_max_left ..
    have := le_max_right t.1 (R.round z)
    refine ⟨⟨max t.1 (R.round z), Rounding.number_max t.2 (R.idem z)⟩, hlater, hy.trans (R.mono ?_)⟩
    simp only
    linarith

theorem measures_java : Measures (javaElapsed R) where
  nonneg {now last} h := by
    have hnanos : (0 : ℚ) ≤ R.round ((now - last : ℤ) : ℚ) :=
      Rounding.round_nonneg (by exact_mod_cast sub_nonneg.2 h)
    exact Rounding.round_nonneg (by positivity)
  self t := by rw [javaElapsed, sub_self, Int.cast_zero, R.zero, zero_div, R.zero]
  far t x := by
    obtain ⟨y, hy⟩ := R.unbounded x
    obtain ⟨z, hz⟩ := R.unbounded (y * 1000000000)
    obtain ⟨n, hn⟩ := exists_nat_ge z
    refine ⟨t + n, by omega, hy.trans (R.mono ?_)⟩
    have hnanos : ((t + n - t : ℤ) : ℚ) = n := by
      push_cast
      ring
    rw [hnanos, le_div_iff₀ (by norm_num)]
    exact hz.trans (R.mono hn)

/-! ## One call -/

variable {R elapsed}

theorem tryAcquire_of_lt {s : RateLimitedSampler Clock} {now : Clock} (h : s.refilled R elapsed now < 1) :
    s.tryAcquire R elapsed now = (false, { s with tokens := s.refilled R elapsed now, lastRefill := now }) := if_pos h

theorem tryAcquire_of_le {s : RateLimitedSampler Clock} {now : Clock} (h : 1 ≤ s.refilled R elapsed now) :
    s.tryAcquire R elapsed now = (true, { s with tokens := R.round (s.refilled R elapsed now - 1), lastRefill := now }) :=
  if_neg (not_lt.2 h)

theorem shouldSample_of_lt {s : RateLimitedSampler Clock} {now : Clock} (traceId : TraceId)
    (h : s.refilled R elapsed now < 1) :
    s.shouldSample R elapsed now traceId = (.drop, { s with tokens := s.refilled R elapsed now, lastRefill := now }) := by
  delta shouldSample
  rw [tryAcquire_of_lt h]

theorem shouldSample_of_le {s : RateLimitedSampler Clock} {now : Clock} (traceId : TraceId)
    (h : 1 ≤ s.refilled R elapsed now) : s.shouldSample R elapsed now traceId =
      (.recordAndSample, { s with tokens := R.round (s.refilled R elapsed now - 1), lastRefill := now }) := by
  delta shouldSample
  rw [tryAcquire_of_le h]

theorem length_decisions : ∀ (calls : List (Clock × TraceId)) (s : RateLimitedSampler Clock),
    (decisions R elapsed s calls).length = calls.length
  | [], _ => rfl
  | (now, traceId) :: calls, s => congrArg (· + 1) (length_decisions calls (s.shouldSample R elapsed now traceId).2)

theorem decisions_append : ∀ (xs ys : List (Clock × TraceId)) (s : RateLimitedSampler Clock),
    decisions R elapsed s (xs ++ ys) = decisions R elapsed s xs ++ decisions R elapsed (after R elapsed s xs) ys
  | [], _, _ => rfl
  | (now, traceId) :: xs, ys, s => congrArg _ (decisions_append xs ys (s.shouldSample R elapsed now traceId).2)

variable (R) in
/-- A number between none and full: what every sampler built by the constructor keeps. -/
structure WellFilled (s : RateLimitedSampler Clock) : Prop where
  rate : 0 < s.tracesPerSecond
  one_le_capacity : 1 ≤ s.capacity
  nonneg : 0 ≤ s.tokens
  le_capacity : s.tokens ≤ s.capacity
  number_tokens : R.round s.tokens = s.tokens
  number_capacity : R.round s.capacity = s.capacity

theorem wellFilled_new {tracesPerSecond : ℚ} (h : 0 < tracesPerSecond) (hnum : R.round tracesPerSecond = tracesPerSecond)
    (now : Clock) : (new tracesPerSecond now).WellFilled R where
  rate := h
  one_le_capacity := le_max_left ..
  nonneg := le_trans zero_le_one (le_max_left ..)
  le_capacity := le_refl _
  number_tokens := Rounding.number_max R.one hnum
  number_capacity := Rounding.number_max R.one hnum

theorem lastRefill_shouldSample (s : RateLimitedSampler Clock) (now : Clock) (traceId : TraceId) :
    (s.shouldSample R elapsed now traceId).2.lastRefill = now := by
  by_cases h : s.refilled R elapsed now < 1
  · rw [shouldSample_of_lt traceId h]
  · rw [shouldSample_of_le traceId (not_lt.1 h)]

/-- After a long enough pause there is a token, whatever came before. -/
theorem WellFilled.one_le_refilled {s : RateLimitedSampler Clock} (hs : s.WellFilled R) {now : Clock}
    (hpause : 1 / s.tracesPerSecond ≤ elapsed now s.lastRefill) : 1 ≤ s.refilled R elapsed now := by
  have hgain : 1 ≤ elapsed now s.lastRefill * s.tracesPerSecond := (div_le_iff₀ hs.rate).1 hpause
  have hrounded := Rounding.one_le_round (R := R) hgain
  have htokens := hs.nonneg
  exact le_min hs.one_le_capacity (Rounding.one_le_round (by linarith))

theorem WellFilled.number_refilled {s : RateLimitedSampler Clock} (hs : s.WellFilled R) (now : Clock) :
    R.round (s.refilled R elapsed now) = s.refilled R elapsed now :=
  Rounding.number_min hs.number_capacity (R.idem _)

theorem recorded_after_pause {s : RateLimitedSampler Clock} (hs : s.WellFilled R) {now : Clock} (traceId : TraceId)
    (hpause : 1 / s.tracesPerSecond ≤ elapsed now s.lastRefill) :
    (s.shouldSample R elapsed now traceId).1 = .recordAndSample := by
  rw [shouldSample_of_le traceId (hs.one_le_refilled hpause)]

theorem tracesPerSecond_shouldSample (s : RateLimitedSampler Clock) (now : Clock) (traceId : TraceId) :
    (s.shouldSample R elapsed now traceId).2.tracesPerSecond = s.tracesPerSecond := by
  by_cases h : s.refilled R elapsed now < 1
  · rw [shouldSample_of_lt traceId h]
  · rw [shouldSample_of_le traceId (not_lt.1 h)]

/-! ## Consistency -/

theorem getElem?_zip {readings : List Clock} {ids : List TraceId} {i : Nat} {x : Clock × TraceId}
    (h : (readings.zip ids)[i]? = some x) : ids[i]? = some x.2 := by
  rw [List.getElem?_zip_eq_some] at h
  exact h.2

theorem zip_at {readings : List Clock} {ids : List TraceId} (hlen : readings.length = ids.length) {i : Nat} {id : TraceId}
    (hi : ids[i]? = some id) : ∃ t, (readings.zip ids)[i]? = some (t, id) := by
  have hilt : i < readings.length := by
    rw [hlen]
    exact (List.getElem?_eq_some_iff.1 hi).1
  exact ⟨readings[i], List.getElem?_zip_eq_some.2 ⟨List.getElem?_eq_getElem hilt, hi⟩⟩

theorem not_consistent {s : RateLimitedSampler Clock} {readings : List Clock} {ids : List TraceId}
    (hlen : readings.length = ids.length) {i j : Nat} {id : TraceId} (hi : ids[i]? = some id) (hj : ids[j]? = some id)
    {d d' : Decision} (hdi : (decisions R elapsed s (readings.zip ids))[i]? = some d)
    (hdj : (decisions R elapsed s (readings.zip ids))[j]? = some d') (hne : d ≠ d') :
    ¬ Consistent R elapsed s (readings.zip ids) := by
  intro h
  obtain ⟨t, ht⟩ := zip_at hlen hi
  obtain ⟨t', ht'⟩ := zip_at hlen hj
  have heq := h i j _ _ ht ht' rfl
  rw [hdi, hdj] at heq
  exact hne (Option.some.inj heq)

/-! ## Clocks -/

variable [Preorder Clock]

theorem WellFilled.le_refilled {s : RateLimitedSampler Clock} (hs : s.WellFilled R) (hm : Measures elapsed) {now : Clock}
    (hnow : s.lastRefill ≤ now) : s.tokens ≤ s.refilled R elapsed now := by
  have helapsed := hm.nonneg hnow
  have hgain : 0 ≤ elapsed now s.lastRefill * s.tracesPerSecond := mul_nonneg helapsed hs.rate.le
  exact le_min hs.le_capacity (Rounding.le_round_add hs.number_tokens (Rounding.round_nonneg hgain))

theorem WellFilled.shouldSample {s : RateLimitedSampler Clock} (hs : s.WellFilled R) (hm : Measures elapsed) {now : Clock}
    (hnow : s.lastRefill ≤ now) (traceId : TraceId) : (s.shouldSample R elapsed now traceId).2.WellFilled R := by
  have hle := hs.le_refilled hm hnow
  have hcap : s.refilled R elapsed now ≤ s.capacity := min_le_left ..
  have hnum : R.round (s.refilled R elapsed now) = s.refilled R elapsed now := hs.number_refilled now
  by_cases h : s.refilled R elapsed now < 1
  · rw [shouldSample_of_lt traceId h]
    exact ⟨hs.rate, hs.one_le_capacity, hs.nonneg.trans hle, hcap, hnum, hs.number_capacity⟩
  · rw [shouldSample_of_le traceId (not_lt.1 h)]
    rw [not_lt] at h
    have hspent := Rounding.countdown_le (R := R) 1 _ hnum
    exact ⟨hs.rate, hs.one_le_capacity, Rounding.round_nonneg (sub_nonneg.2 h), le_trans hspent hcap, R.idem _,
      hs.number_capacity⟩

theorem NonDecreasing.tail {start now : Clock} {rest : List Clock} (h : NonDecreasing start (now :: rest)) :
    start ≤ now ∧ NonDecreasing now rest :=
  ⟨(List.pairwise_cons.1 h).1 now List.mem_cons_self, (List.pairwise_cons.1 h).2⟩

/-! ## Sequences of calls -/

/-- As long as the tokens of the start last, every call is recorded, whatever the clock does. -/
theorem recorded_of_le (hm : Measures elapsed) : ∀ (calls : List (Clock × TraceId)) (s : RateLimitedSampler Clock)
    (k : Nat), s.WellFilled R → NonDecreasing s.lastRefill (calls.map Prod.fst) → k < calls.length →
      1 ≤ R.countdown s.tokens k → (decisions R elapsed s calls)[k]? = some .recordAndSample
  | [], _, _, _, _, hk, _ => by cases hk
  | (now, traceId) :: calls, s, k, hs, hclock, hk, htokens => by
    obtain ⟨hnow, hrest⟩ := hclock.tail
    have hle : s.tokens ≤ s.refilled R elapsed now := hs.le_refilled hm hnow
    have hone : 1 ≤ s.refilled R elapsed now :=
      (htokens.trans (Rounding.countdown_le k _ hs.number_tokens)).trans hle
    have hs' := hs.shouldSample hm hnow traceId
    have hlast := @lastRefill_shouldSample _ _ R elapsed s now traceId
    rw [shouldSample_of_le traceId hone] at hs' hlast
    rw [decisions, shouldSample_of_le traceId hone]
    cases k with
    | zero => rfl
    | succ k =>
      rw [List.getElem?_cons_succ]
      apply recorded_of_le hm calls _ k hs' hrest (Nat.lt_of_succ_lt_succ hk)
      -- the clock may have refilled the bucket, which leaves no less to count down from
      exact htokens.trans (Rounding.countdown_le_countdown (R.mono (by linarith)) k)

/-- While the clock stands still nothing is refilled. -/
theorem WellFilled.refilled_still {s : RateLimitedSampler Clock} (hs : s.WellFilled R) (hm : Measures elapsed) :
    s.refilled R elapsed s.lastRefill = s.tokens := by
  rw [refilled, hm.self, zero_mul, R.zero, add_zero, hs.number_tokens, min_eq_right hs.le_capacity]

theorem dropped_of_lt (hm : Measures elapsed) : ∀ (calls : List (Clock × TraceId))
    (s : RateLimitedSampler Clock) (k : Nat), s.WellFilled R → (∀ call ∈ calls, call.1 = s.lastRefill) →
      k < calls.length → R.countdown s.tokens k < 1 → (decisions R elapsed s calls)[k]? = some .drop
  | [], _, _, _, _, hk, _ => by cases hk
  | (now, traceId) :: calls, s, k, hs, hstill, hk, htokens => by
    obtain rfl : now = s.lastRefill := hstill _ List.mem_cons_self
    have hrest : ∀ call ∈ calls, call.1 = s.lastRefill := fun call hc => hstill call (List.mem_cons_of_mem _ hc)
    have hlevel := hs.refilled_still hm
    have hs' := hs.shouldSample hm (le_refl s.lastRefill) traceId
    rw [decisions]
    by_cases h : s.refilled R elapsed s.lastRefill < 1
    · rw [shouldSample_of_lt traceId h] at hs' ⊢
      cases k with
      | zero => rfl
      | succ k =>
        apply dropped_of_lt hm calls _ k hs' hrest (Nat.lt_of_succ_lt_succ hk)
        exact (Rounding.countdown_le k _ hs'.number_tokens).trans_lt h
    · rw [shouldSample_of_le traceId (not_lt.1 h)] at hs' ⊢
      rw [not_lt, hlevel] at h
      cases k with
      | zero => exact absurd htokens (not_lt.2 h)
      | succ k =>
        apply dropped_of_lt hm calls _ k hs' hrest (Nat.lt_of_succ_lt_succ hk)
        rw [hlevel]
        exact htokens

theorem after_still (hm : Measures elapsed) : ∀ (calls : List (Clock × TraceId)) (s : RateLimitedSampler Clock),
    s.WellFilled R → (∀ call ∈ calls, call.1 = s.lastRefill) → (after R elapsed s calls).WellFilled R ∧
      (after R elapsed s calls).lastRefill = s.lastRefill ∧ (after R elapsed s calls).tracesPerSecond = s.tracesPerSecond
  | [], _, hs, _ => ⟨hs, rfl, rfl⟩
  | (now, traceId) :: calls, s, hs, hstill => by
    obtain rfl : now = s.lastRefill := hstill _ List.mem_cons_self
    have hs' := hs.shouldSample hm (le_refl s.lastRefill) traceId
    have hlast := @lastRefill_shouldSample _ _ R elapsed s s.lastRefill traceId
    have hrate := @tracesPerSecond_shouldSample _ _ R elapsed s s.lastRefill traceId
    have hrest : ∀ call ∈ calls, call.1 = (s.shouldSample R elapsed s.lastRefill traceId).2.lastRefill := fun call hc => by
      rw [hlast]
      exact hstill call (List.mem_cons_of_mem _ hc)
    have ih := after_still hm calls _ hs' hrest
    rwa [hlast, hrate] at ih

theorem nonDecreasing_replicate (start : Clock) (n : Nat) : NonDecreasing start (List.replicate n start) := by
  unfold NonDecreasing
  rw [← List.replicate_succ, List.pairwise_replicate]
  exact Or.inr (le_refl start)

theorem nonDecreasing_pause {start later : Clock} (h : start ≤ later) (m n : Nat) :
    NonDecreasing start (List.replicate m start ++ List.replicate n later) := by
  unfold NonDecreasing
  rw [← List.cons_append, ← List.replicate_succ, List.pairwise_append]
  refine ⟨List.pairwise_replicate.2 (Or.inr (le_refl start)), List.pairwise_replicate.2 (Or.inr (le_refl later)), ?_⟩
  intro a ha b hb
  rw [List.eq_of_mem_replicate ha, List.eq_of_mem_replicate hb]
  exact h

/-- While the clock stands still the full bucket pays for call `i` and not for call `j`. -/
theorem not_consistent_still (hm : Measures elapsed) {rate : ℚ} (hrate : 0 < rate) (hnum : R.round rate = rate)
    (start : Clock) {ids : List TraceId} {i j : Nat} {id : TraceId} (hi : ids[i]? = some id)
    (hj : ids[j]? = some id) (hearly : PaidFor R rate i) (hlate : ¬ PaidFor R rate j) :
    ∃ readings : List Clock, readings.length = ids.length ∧ NonDecreasing start readings ∧
      ¬ Consistent R elapsed (new rate start) (readings.zip ids) := by
  have hnew := wellFilled_new hrate hnum start
  have hclock := nonDecreasing_replicate start ids.length
  have hlen : (List.replicate ids.length start).length = ids.length := List.length_replicate
  have hzip : ((List.replicate ids.length start).zip ids).length = ids.length := by
    rw [List.length_zip, hlen, Nat.min_self]
  have hilt : i < ids.length := (List.getElem?_eq_some_iff.1 hi).1
  have hjlt : j < ids.length := (List.getElem?_eq_some_iff.1 hj).1
  have hmap : ((List.replicate ids.length start).zip ids).map Prod.fst = List.replicate ids.length start :=
    List.map_fst_zip hlen.le
  have hrec := recorded_of_le hm ((List.replicate ids.length start).zip ids) (new rate start) i hnew
    (by rw [hmap]; exact hclock) (by omega) hearly
  have hdrop := dropped_of_lt hm ((List.replicate ids.length start).zip ids) (new rate start) j hnew
    (fun call hc => List.eq_of_mem_replicate (List.of_mem_zip hc).1) (by omega) (not_le.1 hlate)
  exact ⟨_, hlen, hclock, not_consistent hlen hi hj hrec hdrop (by decide)⟩

/-- The clock stands still up to call `j` and pauses just before it: call `i` is dropped and call `j` is recorded. -/
theorem not_consistent_pause (hm : Measures elapsed) {rate : ℚ} (hrate : 0 < rate) (hnum : R.round rate = rate)
    (start : Clock) {ids : List TraceId} {i j : Nat} {id : TraceId} (hij : i < j)
    (hi : ids[i]? = some id) (hj : ids[j]? = some id) (hlate : ¬ PaidFor R rate i) :
    ∃ readings : List Clock, readings.length = ids.length ∧ NonDecreasing start readings ∧
      ¬ Consistent R elapsed (new rate start) (readings.zip ids) := by
  have hnew := wellFilled_new hrate hnum start
  have hjlt : j < ids.length := (List.getElem?_eq_some_iff.1 hj).1
  obtain ⟨later, hlater, hpause⟩ := hm.far start (1 / rate)
  have hclock := nonDecreasing_pause hlater j (ids.length - j)
  have hlen : (List.replicate j start ++ List.replicate (ids.length - j) later).length = ids.length := by
    rw [List.length_append, List.length_replicate, List.length_replicate]
    omega
  have hids : ids = ids.take j ++ id :: ids.drop (j + 1) := by
    have := (List.getElem?_eq_some_iff.1 hj).2
    rw [← this, List.getElem_cons_drop, List.take_append_drop]
  have hrep : List.replicate (ids.length - j) later = later :: List.replicate (ids.length - j - 1) later := by
    rw [← List.replicate_succ]
    congr 1
    omega
  have htake : (ids.take j).length = j := by
    rw [List.length_take]
    omega
  have hzip : (List.replicate j start ++ List.replicate (ids.length - j) later).zip ids =
      (List.replicate j start).zip (ids.take j) ++
        (later, id) :: (List.replicate (ids.length - j - 1) later).zip (ids.drop (j + 1)) := by
    conv_lhs => rw [hids]
    rw [List.zip_append (by rw [List.length_replicate, htake]), ← List.zip_cons_cons, ← hrep, ← hids]
  have hjlen : ((List.replicate j start).zip (ids.take j)).length = j := by
    rw [List.length_zip, List.length_replicate, htake, Nat.min_self]
  have hstill : ∀ call ∈ (List.replicate j start).zip (ids.take j), call.1 = (new rate start).lastRefill :=
    fun call hc => List.eq_of_mem_replicate (List.of_mem_zip hc).1
  obtain ⟨hafter, hlast, hsame⟩ := after_still hm _ _ hnew hstill
  have hdrop := dropped_of_lt hm _ _ i hnew hstill (by omega) (not_le.1 hlate)
  have hrec := recorded_after_pause hafter id (by rw [hlast, hsame]; exact hpause)
  have hne : Decision.drop ≠ .recordAndSample := by decide
  refine ⟨_, hlen, hclock, not_consistent hlen hi hj ?_ ?_ hne⟩
  · rw [hzip, decisions_append, List.getElem?_append_left (by rw [length_decisions, hjlen]; exact hij)]
    exact hdrop
  · rw [hzip, decisions_append, List.getElem?_append_right (by rw [length_decisions, hjlen]), length_decisions, hjlen,
      Nat.sub_self]
    exact congrArg some hrec

/-- **When a sequence of trace ids is sampled consistently at every clock**: when the ids that come twice come only among
the first calls, which the full bucket pays for. -/
theorem always_consistent_iff (hm : Measures elapsed) {rate : ℚ} (hrate : 0 < rate) (hnum : R.round rate = rate)
    (start : Clock) (ids : List TraceId) :
    (∀ readings, readings.length = ids.length → NonDecreasing start readings →
      Consistent R elapsed (new rate start) (readings.zip ids)) ↔
    ∀ (i j : Nat) (id : TraceId), i < j → ids[i]? = some id → ids[j]? = some id → PaidFor R rate j := by
  have hnew := wellFilled_new hrate hnum start
  constructor
  · intro h i j id hij hi hj
    by_contra hlate
    by_cases hearly : PaidFor R rate i
    · obtain ⟨readings, hlen, hclock, hnot⟩ := not_consistent_still hm hrate hnum start hi hj hearly hlate
      exact hnot (h readings hlen hclock)
    · obtain ⟨readings, hlen, hclock, hnot⟩ := not_consistent_pause hm hrate hnum start hij hi hj hearly
      exact hnot (h readings hlen hclock)
  · intro h readings hlen hclock
    have hmap : (readings.zip ids).map Prod.fst = readings := List.map_fst_zip (by omega)
    have hclock' : NonDecreasing (new rate start).lastRefill ((readings.zip ids).map Prod.fst) := by
      rw [hmap]
      exact hclock
    have hboth : ∀ {i j : Nat} {x y : Clock × TraceId}, i < j → (readings.zip ids)[i]? = some x →
        (readings.zip ids)[j]? = some y → x.2 = y.2 →
          (decisions R elapsed (new rate start) (readings.zip ids))[i]? =
            (decisions R elapsed (new rate start) (readings.zip ids))[j]? := by
      intro i j x y hij hi hj hid
      have hlate := h i j x.2 hij (getElem?_zip hi) (by rw [hid]; exact getElem?_zip hj)
      have hearly : PaidFor R rate i := le_trans hlate (Rounding.countdown_antitone hnew.number_tokens hij.le)
      rw [recorded_of_le hm _ _ i hnew hclock' (List.getElem?_eq_some_iff.1 hi).1 hearly,
        recorded_of_le hm _ _ j hnew hclock' (List.getElem?_eq_some_iff.1 hj).1 hlate]
    intro i j x y hi hj hid
    rcases Nat.lt_trichotomy i j with hij | rfl | hij
    · exact hboth hij hi hj hid
    · rfl
    · exact (hboth hij hj hi hid.symm).symm

/-- Where one is taken exactly from every number up to the capacity, the bucket pays for as many calls as it has tokens. -/
theorem paidFor_iff {tracesPerSecond : ℚ} (hnum : R.round tracesPerSecond = tracesPerSecond)
    (hexact : ∀ y, R.round y = y → 1 ≤ y → y ≤ max 1 tracesPerSecond → R.round (y - 1) = y - 1) (k : Nat) :
    PaidFor R tracesPerSecond k ↔ (k : ℚ) + 1 ≤ max 1 tracesPerSecond :=
  Rounding.one_le_countdown_iff k _ hexact (Rounding.number_max R.one hnum)

/-- In doubles as well, up to 2 to the 53. -/
theorem paidFor_binary64 {tracesPerSecond : ℚ} (hnum : Rounding.binary64.round tracesPerSecond = tracesPerSecond)
    (htop : tracesPerSecond ≤ 2 ^ 53) (k : Nat) :
    PaidFor .binary64 tracesPerSecond k ↔ (k : ℚ) + 1 ≤ max 1 tracesPerSecond :=
  paidFor_iff hnum (fun _ hy hone hle => Binary64.round_sub_one hy hone (hle.trans (max_le (by norm_num) htop))) k

end RateLimitedSampler

open RateLimitedSampler

/-- **Consistency within a trace**, of both samplers: a sequence of trace ids is sampled consistently at every clock exactly
when the ids that come twice come only among the calls that the full bucket pays for. -/
theorem sampling_consistent_iff {TraceId : Type} (R : Rounding) (tracesPerSecond : R.Number)
    (h : 0 < tracesPerSecond.1) (ids : List TraceId) :
    (∀ start : R.Number, (∀ readings, readings.length = ids.length → NonDecreasing start readings →
        Consistent R (fun now last => pythonElapsed R now.1 last.1) (new tracesPerSecond.1 start) (readings.zip ids)) ↔
      ∀ (i j : Nat) (id : TraceId), i < j → ids[i]? = some id → ids[j]? = some id → PaidFor R tracesPerSecond.1 j) ∧
    ∀ start : ℤ, (∀ readings, readings.length = ids.length → NonDecreasing start readings →
        Consistent R (javaElapsed R) (new tracesPerSecond.1 start) (readings.zip ids)) ↔
      ∀ (i j : Nat) (id : TraceId), i < j → ids[i]? = some id → ids[j]? = some id → PaidFor R tracesPerSecond.1 j :=
  ⟨fun start => always_consistent_iff (measures_python R) h tracesPerSecond.2 start ids,
    fun start => always_consistent_iff (measures_java R) h tracesPerSecond.2 start ids⟩

/-- In doubles, at two traces a second, a trace of two spans that starts with the second call may be cut in two, and one
that starts with the first call is not. -/
theorem sampling_consistent_iff_two : (0 : ℚ) < 2 ∧
    (∀ readings, readings.length = 3 → NonDecreasing (0 : ℤ) readings →
      Consistent .binary64 (javaElapsed .binary64) (new 2 (0 : ℤ)) (readings.zip [5, 5, 1])) ∧
    ¬ ∀ readings, readings.length = 3 → NonDecreasing (0 : ℤ) readings →
      Consistent .binary64 (javaElapsed .binary64) (new 2 (0 : ℤ)) (readings.zip [1, 5, 5]) := by
  have htwo : Rounding.binary64.round 2 = 2 :=
    Binary64.round_of_representable (x := 2) (by simpa using Binary64.representable_two_pow 1)
  refine ⟨by norm_num, ((sampling_consistent_iff .binary64 ⟨2, htwo⟩ (by norm_num) [5, 5, 1]).2 0).2 ?_, fun h => ?_⟩
  · intro i j id hij hi hj
    rw [paidFor_binary64 htwo (by norm_num)]
    rcases j with _ | _ | _ | j
    · omega
    · norm_num
    · rcases i with _ | _ | i
      · cases hi; cases hj
      · cases hi; cases hj
      · omega
    · cases hj
  · have hpaid := ((sampling_consistent_iff .binary64 ⟨2, htwo⟩ (by norm_num) [1, 5, 5]).2 0).1 h 1 2 5 (by decide) rfl rfl
    rw [paidFor_binary64 htwo (by norm_num)] at hpaid
    norm_num at hpaid

/-- Two spans of one trace in one instant, at one trace a second: the second is dropped under the first. -/
theorem not_consistent_two_spans : NonDecreasing (0 : ℤ) [0, 0] ∧
    ¬ Consistent .binary64 (javaElapsed .binary64) (new 1 (0 : ℤ)) [(0, 7), (0, 7)] := by
  refine ⟨nonDecreasing_replicate 0 2, fun h => ?_⟩
  have hnew : (new 1 (0 : ℤ)).WellFilled .binary64 := wellFilled_new (by norm_num) Rounding.binary64.one 0
  have hfull : (new 1 (0 : ℤ)).tokens = 1 := max_self 1
  have hfirst := recorded_of_le (measures_java .binary64) [(0, 7), (0, 7)] _ 0 hnew (nonDecreasing_replicate 0 2)
    (by decide) (by rw [hfull]; exact le_refl _)
  have hspent : Rounding.binary64.countdown 1 1 = 0 := by
    rw [Rounding.countdown_succ, sub_self, Rounding.binary64.zero, Rounding.countdown_zero]
  have hsecond := dropped_of_lt (measures_java .binary64) [(0, 7), (0, 7)] _ 1 hnew (by decide) (by decide)
    (by rw [hfull, hspent]; exact one_pos)
  have hpair := h 0 1 (0, 7) (0, 7) rfl rfl rfl
  rw [hfirst, hsecond] at hpair
  cases hpair

end AppInsights
end Graftcode
