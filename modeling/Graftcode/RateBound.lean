import Graftcode.RateLimitedSampler
/-!
# RateBound — how many calls a sampler lets through

`_try_acquire` of the two samplers in exact arithmetic, called again and again.  In any stretch of time it says yes at most
as often as the full bucket pays for and the stretch refills.
-/
namespace Graftcode
namespace AppInsights
namespace RateLimitedSampler

variable {Clock : Type} (elapsed : Clock → Clock → ℚ)

/-- The calls of a sequence of clock readings, each with its answer. -/
def acquisitions : RateLimitedSampler Clock → List Clock → List (Clock × Bool)
  | _, []               => []
  | s, now :: readings =>
    let (acquired, s) := s.tryAcquire .exact elapsed now
    (now, acquired) :: acquisitions s readings

/-- The sampler after the calls of a sequence of clock readings. -/
def afterAcquires : RateLimitedSampler Clock → List Clock → RateLimitedSampler Clock
  | s, []              => s
  | s, now :: readings => afterAcquires (s.tryAcquire .exact elapsed now).2 readings

/-- The calls accepted from `t₁` to `t₂`. -/
def accepted [LE Clock] [DecidableLE Clock] (t₁ t₂ : Clock) (calls : List (Clock × Bool)) : Nat :=
  calls.countP fun call => call.2 && decide (t₁ ≤ call.1) && decide (call.1 ≤ t₂)

variable {elapsed}

/-! ## One call -/

@[simp] theorem lastRefill_tryAcquire (s : RateLimitedSampler Clock) (now : Clock) :
    (s.tryAcquire .exact elapsed now).2.lastRefill = now := by
  by_cases h : s.refilled .exact elapsed now < 1
  · rw [tryAcquire_of_lt h]
  · rw [tryAcquire_of_le (not_lt.1 h)]

@[simp] theorem tracesPerSecond_tryAcquire (s : RateLimitedSampler Clock) (now : Clock) :
    (s.tryAcquire .exact elapsed now).2.tracesPerSecond = s.tracesPerSecond := by
  by_cases h : s.refilled .exact elapsed now < 1
  · rw [tryAcquire_of_lt h]
  · rw [tryAcquire_of_le (not_lt.1 h)]

@[simp] theorem capacity_tryAcquire (s : RateLimitedSampler Clock) (now : Clock) :
    (s.tryAcquire .exact elapsed now).2.capacity = s.capacity := by
  by_cases h : s.refilled .exact elapsed now < 1
  · rw [tryAcquire_of_lt h]
  · rw [tryAcquire_of_le (not_lt.1 h)]

/-- A call takes a token from the refilled bucket exactly when it is accepted. -/
theorem tokens_tryAcquire (s : RateLimitedSampler Clock) (now : Clock) :
    (s.tryAcquire .exact elapsed now).2.tokens + (s.tryAcquire .exact elapsed now).1.toNat =
      s.refilled .exact elapsed now := by
  by_cases h : s.refilled .exact elapsed now < 1
  · simp [tryAcquire_of_lt h]
  · simp [tryAcquire_of_le (not_lt.1 h)]

theorem tryAcquire_after_pause {s : RateLimitedSampler Clock} (hs : s.WellFilled .exact) {now : Clock}
    (hpause : 1 / s.tracesPerSecond ≤ elapsed now s.lastRefill) : (s.tryAcquire .exact elapsed now).1 = true := by
  rw [tryAcquire_of_le (hs.one_le_refilled hpause)]

theorem afterAcquires_append : ∀ (xs ys : List Clock) (s : RateLimitedSampler Clock),
    afterAcquires elapsed s (xs ++ ys) = afterAcquires elapsed (afterAcquires elapsed s xs) ys
  | [], _, _ => rfl
  | now :: xs, ys, s => afterAcquires_append xs ys (s.tryAcquire .exact elapsed now).2

theorem measures_exact : Measures (pythonElapsed .exact) where
  nonneg h := sub_nonneg.2 h
  self t := sub_self t
  far t x := ⟨max t (t + x), le_max_left .., by
    have := le_max_right t (t + x)
    rw [pythonElapsed, Rounding.exact_round]
    linarith⟩

variable [LinearOrder Clock]

/-- `should_sample` is `_try_acquire`, so it keeps the bucket filled as that does. -/
theorem WellFilled.tryAcquire {s : RateLimitedSampler Clock} (hs : s.WellFilled .exact) (hm : Measures elapsed) {now : Clock}
    (hnow : s.lastRefill ≤ now) : (s.tryAcquire .exact elapsed now).2.WellFilled .exact := by
  have hsample := hs.shouldSample hm hnow ()
  by_cases h : s.refilled .exact elapsed now < 1
  · rw [shouldSample_of_lt () h] at hsample
    rw [tryAcquire_of_lt h]
    exact hsample
  · rw [shouldSample_of_le () (not_lt.1 h)] at hsample
    rw [tryAcquire_of_le (not_lt.1 h)]
    exact hsample

/-! ## Stretches of time -/

/-- Two stretches of time, one after the other, take what they take together. -/
def Adds (elapsed : Clock → Clock → ℚ) : Prop := ∀ a b c, elapsed b a + elapsed c b = elapsed c a

theorem adds_python : Adds (pythonElapsed .exact) := by
  intro a b c
  simp only [pythonElapsed, Rounding.exact_round]
  ring

theorem adds_java : Adds (javaElapsed .exact) := by
  intro a b c
  simp only [javaElapsed, Rounding.exact_round]
  push_cast
  ring

variable {t₁ t₂ : Clock}

theorem accepted_cons (now : Clock) (acquired : Bool) (calls : List (Clock × Bool)) (t₁ t₂ : Clock) :
    accepted t₁ t₂ ((now, acquired) :: calls) =
      accepted t₁ t₂ calls + if t₁ ≤ now ∧ now ≤ t₂ then acquired.toNat else 0 := by
  rw [accepted, List.countP_cons, ← accepted]
  congr 1
  by_cases h : t₁ ≤ now ∧ now ≤ t₂
  · cases acquired <;> simp [h]
  · rw [if_neg h, if_neg]
    intro hc
    simp only [Bool.and_eq_true, decide_eq_true_eq] at hc
    exact h ⟨hc.1.2, hc.2⟩

/-- No call is accepted from `t₁` to `t₂` when all of them come later. -/
theorem accepted_of_later : ∀ (readings : List Clock) (s : RateLimitedSampler Clock), (∀ t ∈ readings, ¬ t ≤ t₂) →
    accepted t₁ t₂ (acquisitions elapsed s readings) = 0
  | [], _, _ => rfl
  | now :: readings, s, h => by
    have ih := accepted_of_later readings (s.tryAcquire .exact elapsed now).2 fun t ht => h t (List.mem_cons_of_mem _ ht)
    rw [acquisitions, accepted_cons, ih, if_neg fun hc => h now List.mem_cons_self hc.2]

/-- The calls from now on up to `t₂` are paid for by the tokens there are and by what is refilled until then. -/
theorem accepted_le_tokens (hm : Measures elapsed) (hadd : Adds elapsed) : ∀ (readings : List Clock)
    (s : RateLimitedSampler Clock), s.WellFilled .exact → NonDecreasing s.lastRefill readings → s.lastRefill ≤ t₂ →
      (accepted t₁ t₂ (acquisitions elapsed s readings) : ℚ) ≤
        s.tokens + elapsed t₂ s.lastRefill * s.tracesPerSecond
  | [], s, hs, _, hlast => by
    have hgain := mul_nonneg (hm.nonneg hlast) hs.rate.le
    have htokens := hs.nonneg
    simp only [acquisitions, accepted, List.countP_nil, Nat.cast_zero]
    linarith
  | now :: readings, s, hs, hclock, hlast => by
    obtain ⟨hnow, hrest⟩ := hclock.tail
    by_cases ht : now ≤ t₂
    · have hs' := hs.tryAcquire hm hnow
      have ih := accepted_le_tokens hm hadd readings (s.tryAcquire .exact elapsed now).2 hs'
        (by rw [lastRefill_tryAcquire]; exact hrest) (by rw [lastRefill_tryAcquire]; exact ht)
      have hpaid := @tokens_tryAcquire _ elapsed s now
      have hrefill : s.refilled .exact elapsed now ≤ s.tokens + elapsed now s.lastRefill * s.tracesPerSecond :=
        min_le_right ..
      have htime := hadd s.lastRefill now t₂
      rw [lastRefill_tryAcquire, tracesPerSecond_tryAcquire] at ih
      rw [acquisitions, accepted_cons, ← htime, add_mul]
      have hcount : ((if t₁ ≤ now ∧ now ≤ t₂ then (s.tryAcquire .exact elapsed now).1.toNat else 0 : Nat) : ℚ) ≤
          (s.tryAcquire .exact elapsed now).1.toNat := by
        by_cases h : t₁ ≤ now ∧ now ≤ t₂
        · rw [if_pos h]
        · rw [if_neg h, Nat.cast_zero]
          exact Nat.cast_nonneg _
      rw [Nat.cast_add]
      linarith
    · have hlater : ∀ t ∈ now :: readings, ¬ t ≤ t₂ := by
        intro t hmem hle
        rcases List.mem_cons.1 hmem with rfl | hmem
        · exact ht hle
        · exact ht (le_trans ((List.pairwise_cons.1 hrest).1 t hmem) hle)
      have hgain := mul_nonneg (hm.nonneg hlast) hs.rate.le
      have htokens := hs.nonneg
      rw [accepted_of_later _ _ hlater, Nat.cast_zero]
      linarith

/-- **The bound of a stretch**: the first call in it finds at most the full bucket. -/
theorem accepted_le (hm : Measures elapsed) (hadd : Adds elapsed) (ht : t₁ ≤ t₂) : ∀ (readings : List Clock)
    (s : RateLimitedSampler Clock), s.WellFilled .exact → NonDecreasing s.lastRefill readings →
      (accepted t₁ t₂ (acquisitions elapsed s readings) : ℚ) ≤ s.capacity + elapsed t₂ t₁ * s.tracesPerSecond
  | [], s, hs, _ => by
    have hgain := mul_nonneg (hm.nonneg ht) hs.rate.le
    have hcap := hs.one_le_capacity
    simp only [acquisitions, accepted, List.countP_nil, Nat.cast_zero]
    linarith
  | now :: readings, s, hs, hclock => by
    obtain ⟨hnow, hrest⟩ := hclock.tail
    have hs' := hs.tryAcquire hm hnow
    have hrest' : NonDecreasing (s.tryAcquire .exact elapsed now).2.lastRefill readings := by
      rw [lastRefill_tryAcquire]
      exact hrest
    by_cases hin : t₁ ≤ now ∧ now ≤ t₂
    · have hwindow := @accepted_le_tokens _ elapsed _ t₁ t₂ hm hadd readings _ hs' hrest'
        (by rw [lastRefill_tryAcquire]; exact hin.2)
      have hpaid := @tokens_tryAcquire _ elapsed s now
      have hfull : s.refilled .exact elapsed now ≤ s.capacity := min_le_left ..
      have htime := hadd t₁ now t₂
      have hbefore := mul_nonneg (hm.nonneg hin.1) hs.rate.le
      rw [lastRefill_tryAcquire, tracesPerSecond_tryAcquire] at hwindow
      rw [acquisitions, accepted_cons, if_pos hin, ← htime, add_mul]
      push_cast
      linarith
    · have ih := accepted_le hm hadd ht readings _ hs' hrest'
      rw [capacity_tryAcquire, tracesPerSecond_tryAcquire] at ih
      rw [acquisitions, accepted_cons, if_neg hin, Nat.add_zero]
      exact ih

/-! ## Whole runs -/

/-- After any calls the bucket is well filled, its rate and capacity are the same, and the last call filled it. -/
theorem afterAcquires_spec (hm : Measures elapsed) : ∀ (readings : List Clock) (s : RateLimitedSampler Clock),
    s.WellFilled .exact → NonDecreasing s.lastRefill readings →
      (afterAcquires elapsed s readings).WellFilled .exact ∧ (afterAcquires elapsed s readings).capacity = s.capacity ∧
        (afterAcquires elapsed s readings).tracesPerSecond = s.tracesPerSecond
  | [], _, hs, _ => ⟨hs, rfl, rfl⟩
  | now :: readings, s, hs, hclock => by
    obtain ⟨hnow, hrest⟩ := hclock.tail
    have ih := afterAcquires_spec hm readings (s.tryAcquire .exact elapsed now).2 (hs.tryAcquire hm hnow)
      (by rw [lastRefill_tryAcquire]; exact hrest)
    rwa [capacity_tryAcquire, tracesPerSecond_tryAcquire] at ih

theorem lastRefill_afterAcquires_le : ∀ (readings : List Clock) (s : RateLimitedSampler Clock) (now : Clock),
    NonDecreasing s.lastRefill (readings ++ [now]) → (afterAcquires elapsed s readings).lastRefill ≤ now
  | [], _, _, hclock => hclock.tail.1
  | t :: readings, s, now, hclock => by
    have hrest := hclock.tail.2
    exact lastRefill_afterAcquires_le readings (s.tryAcquire .exact elapsed t).2 now
      (by rw [lastRefill_tryAcquire]; exact hrest)

theorem NonDecreasing.take {start : Clock} {readings rest : List Clock} (h : NonDecreasing start (readings ++ rest)) :
    NonDecreasing start readings :=
  h.sublist (List.Sublist.cons_cons start (List.sublist_append_left readings rest))

/-- What holds of the sampler of a rate at every clock: the tokens stay between none and full, no stretch of time lets more
calls through than the full bucket and its refill, and a call that comes long enough after another is accepted. -/
structure Bounded (elapsed : Clock → Clock → ℚ) (rate : ℚ) (start : Clock) (readings : List Clock) : Prop where
  tokens   : 0 ≤ (afterAcquires elapsed (new rate start) readings).tokens ∧
    (afterAcquires elapsed (new rate start) readings).tokens ≤ max 1 rate
  refilled : ∀ earlier now, readings = earlier ++ [now] →
    0 ≤ (afterAcquires elapsed (new rate start) earlier).refilled .exact elapsed now ∧
      (afterAcquires elapsed (new rate start) earlier).refilled .exact elapsed now ≤ max 1 rate
  accepted : ∀ t₁ t₂, t₁ ≤ t₂ → (accepted t₁ t₂ (acquisitions elapsed (new rate start) readings) : ℚ) ≤
    max 1 rate + elapsed t₂ t₁ * rate
  paused   : ∀ earlier last now, readings = earlier ++ [last, now] → 1 / rate ≤ elapsed now last →
    ((afterAcquires elapsed (new rate start) (earlier ++ [last])).tryAcquire .exact elapsed now).1 = true

theorem bounded (hm : Measures elapsed) (hadd : Adds elapsed) {rate : ℚ} (hrate : 0 < rate) (start : Clock)
    (readings : List Clock) (hclock : NonDecreasing start readings) : Bounded elapsed rate start readings where
  tokens := by
    obtain ⟨hfilled, hcap, -⟩ := afterAcquires_spec hm readings _ (wellFilled_new hrate rfl start) hclock
    have hle := hfilled.le_capacity
    rw [hcap] at hle
    exact ⟨hfilled.nonneg, hle⟩
  refilled earlier now hsplit := by
    rw [hsplit] at hclock
    obtain ⟨hfilled, hcap, -⟩ := afterAcquires_spec hm earlier _ (wellFilled_new hrate rfl start) hclock.take
    have hle := hfilled.le_refilled hm (lastRefill_afterAcquires_le earlier (new rate start) now hclock)
    have hfull : (afterAcquires elapsed (new rate start) earlier).refilled .exact elapsed now ≤
        (afterAcquires elapsed (new rate start) earlier).capacity := min_le_left ..
    rw [hcap] at hfull
    exact ⟨le_trans hfilled.nonneg hle, hfull⟩
  accepted t₁ t₂ ht := accepted_le hm hadd ht readings (new rate start) (wellFilled_new hrate rfl start) hclock
  paused earlier last now hsplit hpause := by
    have hearlier : readings = (earlier ++ [last]) ++ [now] := by simp [hsplit]
    rw [hearlier] at hclock
    obtain ⟨hfilled, -, hsame⟩ := afterAcquires_spec hm (earlier ++ [last]) _ (wellFilled_new hrate rfl start) hclock.take
    have hlast : (afterAcquires elapsed (new rate start) (earlier ++ [last])).lastRefill = last := by
      rw [afterAcquires_append]
      exact lastRefill_tryAcquire ..
    apply tryAcquire_after_pause hfilled
    rw [hsame, hlast]
    exact hpause

end RateLimitedSampler

open RateLimitedSampler

/-- **The rate bound** of both samplers, at every clock that does not go back. -/
theorem rate_bounded {tracesPerSecond : ℚ} (h : 0 < tracesPerSecond) :
    (∀ (start : ℚ) (readings : List ℚ), NonDecreasing start readings →
      Bounded (pythonElapsed .exact) tracesPerSecond start readings) ∧
    ∀ (start : ℤ) (readings : List ℤ), NonDecreasing start readings →
      Bounded (javaElapsed .exact) tracesPerSecond start readings :=
  ⟨fun start readings hclock => bounded measures_exact adds_python h start readings hclock,
    fun start readings hclock => bounded (measures_java .exact) adds_java h start readings hclock⟩

/-- Half a trace a second: of three calls within two seconds two at most are accepted. -/
theorem rate_bounded_half : NonDecreasing (0 : ℚ) [0, 1, 2] ∧
    (accepted 0 2 (acquisitions (pythonElapsed .exact) (new (1 / 2) (0 : ℚ)) [0, 1, 2]) : ℚ) ≤ 2 := by
  have hclock : NonDecreasing (0 : ℚ) [0, 1, 2] := by
    unfold NonDecreasing
    norm_num
  have hbound := ((rate_bounded (by norm_num : (0 : ℚ) < 1 / 2)).1 0 [0, 1, 2] hclock).accepted 0 2 (by norm_num)
  refine ⟨hclock, hbound.trans ?_⟩
  norm_num [pythonElapsed]

end AppInsights
end Graftcode
