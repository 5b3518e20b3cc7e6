import Mathlib.Data.Rat.Floor
import Mathlib.Data.Int.Log
import Mathlib.Tactic.NormNum
import Mathlib.Tactic.Positivity
import Mathlib.Algebra.Order.Field.Power
import Mathlib.Logic.Function.Iterate
import Mathlib.Order.Iterate
import Mathlib.Tactic.Linarith
import Mathlib.Algebra.Order.Archimedean.Basic
/-!
# Rounding — arithmetic whose results are rounded

A machine's numbers are some of the rationals, and what it computes is rounded to one of them.  Numbers are left alone and
no rounding runs past another, so a computation by monotone steps stays on its side of a number that it compares with.
Doubles are the case in point: rounded to the nearest, the even one of two, at a range of exponents without a top.
-/
namespace Graftcode

/-- Rounding to the numbers of a machine; among them are none, one and larger ones than any. -/
structure Rounding where
  round : ℚ → ℚ
  mono : ∀ {x y : ℚ}, x ≤ y → round x ≤ round y
  idem : ∀ x, round (round x) = round x
  zero : round 0 = 0
  one : round 1 = 1
  unbounded : ∀ x, ∃ y, x ≤ round y

namespace Rounding

/-- Exact arithmetic: every rational is a number. -/
def exact : Rounding where
  round := id
  mono h := h
  idem _ := rfl
  zero := rfl
  one := rfl
  unbounded x := ⟨x, le_refl x⟩

@[simp] theorem exact_round (x : ℚ) : exact.round x = x := rfl

variable (R : Rounding)

/-- The numbers of the machine. -/
def Number : Type := {x : ℚ // R.round x = x}

instance : Preorder R.Number := inferInstanceAs (Preorder {x : ℚ // R.round x = x})

variable {R} {x y : ℚ}

theorem round_nonneg (h : 0 ≤ x) : 0 ≤ R.round x := by
  have := R.mono h
  rwa [R.zero] at this

theorem one_le_round (h : 1 ≤ x) : 1 ≤ R.round x := by
  have := R.mono h
  rwa [R.one] at this

/-- A sum with something that is not negative does not round below the number it starts from. -/
theorem le_round_add (hx : R.round x = x) (hy : 0 ≤ y) : x ≤ R.round (x + y) := by
  have := R.mono (by linarith : x ≤ x + y)
  rwa [hx] at this

theorem number_min (hx : R.round x = x) (hy : R.round y = y) : R.round (min x y) = min x y := by
  rcases min_choice x y with h | h
  · rw [h, hx]
  · rw [h, hy]

theorem number_max (hx : R.round x = x) (hy : R.round y = y) : R.round (max x y) = max x y := by
  rcases max_choice x y with h | h
  · rw [h, hx]
  · rw [h, hy]

/-! ## Counting down -/

variable (R)

/-- What is left of `x` once one has been taken from it `n` times. -/
def countdown (x : ℚ) (n : Nat) : ℚ := (fun x => R.round (x - 1))^[n] x

variable {R}

@[simp] theorem countdown_zero (x : ℚ) : R.countdown x 0 = x := rfl

theorem countdown_succ (x : ℚ) (n : Nat) : R.countdown x (n + 1) = R.countdown (R.round (x - 1)) n := rfl

theorem countdown_le_countdown (h : x ≤ y) (n : Nat) : R.countdown x n ≤ R.countdown y n := by
  have hmono : Monotone fun x => R.round (x - 1) := fun a b hab => R.mono (by linarith)
  exact hmono.iterate n h

theorem number_countdown : ∀ (n : Nat) (x : ℚ), R.round x = x → R.round (R.countdown x n) = R.countdown x n
  | 0, _, hx    => hx
  | n + 1, x, _ => number_countdown n (R.round (x - 1)) (R.idem (x - 1))

theorem countdown_le : ∀ (n : Nat) (x : ℚ), R.round x = x → R.countdown x n ≤ x
  | 0, x, _      => le_refl x
  | n + 1, x, hx => by
    have hstep : R.round (x - 1) ≤ x := by
      have := R.mono (by linarith : x - 1 ≤ x)
      rwa [hx] at this
    exact (countdown_le n (R.round (x - 1)) (R.idem (x - 1))).trans hstep

theorem countdown_add (x : ℚ) (m n : Nat) : R.countdown x (m + n) = R.countdown (R.countdown x m) n := by
  delta countdown
  rw [Nat.add_comm, Function.iterate_add_apply]

theorem countdown_antitone (hx : R.round x = x) {m n : Nat} (h : m ≤ n) : R.countdown x n ≤ R.countdown x m := by
  obtain ⟨k, rfl⟩ := Nat.exists_eq_add_of_le h
  rw [countdown_add]
  exact countdown_le k _ (number_countdown m x hx)

/-- Where one is taken exactly from every number down from `x`, the countdown is a subtraction as far as it goes. -/
theorem one_le_countdown_iff : ∀ (n : Nat) (x : ℚ),
    (∀ y, R.round y = y → 1 ≤ y → y ≤ x → R.round (y - 1) = y - 1) → R.round x = x →
      (1 ≤ R.countdown x n ↔ (n : ℚ) + 1 ≤ x)
  | 0, x, _, _ => by simp
  | n + 1, x, hexact, hx => by
    have hn : (0 : ℚ) ≤ n := Nat.cast_nonneg n
    by_cases h : 1 ≤ x
    · have hstep := hexact x hx h (le_refl x)
      have ih := one_le_countdown_iff n (x - 1) (fun y hy hone hle => hexact y hy hone (by linarith)) hstep
      rw [countdown_succ, hstep, ih]
      push_cast
      constructor
      · intro hle
        linarith
      · intro hle
        linarith
    · have hle := countdown_le (n + 1) x hx
      push_cast
      constructor
      · intro hone
        linarith
      · intro hone
        linarith

end Rounding

/-! ## Doubles -/

namespace Binary64

/-- The nearest integer, and the even one of two. -/
def nearestEven (x : ℚ) : ℤ :=
  if Int.fract x < 1 / 2 ∨ Int.fract x = 1 / 2 ∧ Even ⌊x⌋ then ⌊x⌋ else ⌊x⌋ + 1

theorem floor_le_nearestEven (x : ℚ) : ⌊x⌋ ≤ nearestEven x := by
  unfold nearestEven
  split <;> omega

theorem nearestEven_le (x : ℚ) : nearestEven x ≤ ⌊x⌋ + 1 := by
  unfold nearestEven
  split <;> omega

@[simp] theorem nearestEven_intCast (n : ℤ) : nearestEven (n : ℚ) = n := by
  rw [nearestEven, Int.fract_intCast, Int.floor_intCast, if_pos (Or.inl (by norm_num))]

theorem nearestEven_mono {x y : ℚ} (h : x ≤ y) : nearestEven x ≤ nearestEven y := by
  rcases (Int.floor_le_floor h).lt_or_eq with hlt | heq
  · exact ((nearestEven_le x).trans hlt).trans (floor_le_nearestEven y)
  · have hfract : Int.fract x ≤ Int.fract y := by
      have hx := Int.floor_add_fract x
      have hy := Int.floor_add_fract y
      rw [heq] at hx
      linarith
    by_cases hy : Int.fract y < 1 / 2 ∨ Int.fract y = 1 / 2 ∧ Even ⌊y⌋
    · have hx : Int.fract x < 1 / 2 ∨ Int.fract x = 1 / 2 ∧ Even ⌊x⌋ := by
        rw [heq]
        rcases hy with hy | ⟨hy, heven⟩
        · exact Or.inl (hfract.trans_lt hy)
        · rcases (hfract.trans hy.le).lt_or_eq with hlt | heq
          · exact Or.inl hlt
          · exact Or.inr ⟨heq, heven⟩
      rw [nearestEven, nearestEven, if_pos hx, if_pos hy, heq]
    · have hup : nearestEven y = ⌊y⌋ + 1 := if_neg hy
      rw [hup, ← heq]
      exact nearestEven_le x

/-- The exponent of the last of the 53 bits. -/
def exponent (x : ℚ) : ℤ := max (-1074) (Int.log 2 x - 52)

def unit (x : ℚ) : ℚ := 2 ^ exponent x

/-- A number that is not negative, to 53 bits. -/
def roundPos (x : ℚ) : ℚ := nearestEven (x / unit x) * unit x

def round (x : ℚ) : ℚ := if x < 0 then -roundPos (-x) else roundPos x

theorem unit_pos (x : ℚ) : 0 < unit x := zpow_pos (by norm_num) _

theorem roundPos_le {x : ℚ} {n : ℤ} (h : x ≤ n * unit x) : roundPos x ≤ n * unit x := by
  have hle : x / unit x ≤ n := (div_le_iff₀ (unit_pos x)).2 h
  have hround := nearestEven_mono hle
  rw [nearestEven_intCast] at hround
  exact mul_le_mul_of_nonneg_right (by exact_mod_cast hround) (unit_pos x).le

theorem le_roundPos {x : ℚ} {n : ℤ} (h : n * unit x ≤ x) : n * unit x ≤ roundPos x := by
  have hle : (n : ℚ) ≤ x / unit x := (le_div_iff₀ (unit_pos x)).2 h
  have hround := nearestEven_mono hle
  rw [nearestEven_intCast] at hround
  exact mul_le_mul_of_nonneg_right (by exact_mod_cast hround) (unit_pos x).le

theorem roundPos_of_eq {x : ℚ} {n : ℤ} (h : x = n * unit x) : roundPos x = x := by
  have hle := roundPos_le h.le
  have hge := le_roundPos h.ge
  linarith

theorem roundPos_zero : roundPos 0 = 0 := roundPos_of_eq (n := 0) (by simp)

theorem roundPos_nonneg {x : ℚ} (h : 0 ≤ x) : 0 ≤ roundPos x := by
  have := le_roundPos (x := x) (n := 0) (by simpa using h)
  simpa using this

/-- A power of two is a whole number of units of what lies below it. -/
theorem zpow_eq_mul_unit {x : ℚ} {e : ℤ} (h : exponent x ≤ e) : (2 : ℚ) ^ e = (2 ^ (e - exponent x).toNat : ℤ) * unit x := by
  obtain ⟨k, rfl⟩ := Int.le.dest h
  rw [unit, zpow_add₀ (by norm_num), add_sub_cancel_left, Int.toNat_natCast, zpow_natCast, mul_comm]
  norm_cast

theorem lt_zpow_log (x : ℚ) : x < 2 ^ (Int.log 2 x + 1) := by
  exact_mod_cast Int.lt_zpow_succ_log_self (b := 2) (by norm_num) x

theorem zpow_log_le {x : ℚ} (h : 0 < x) : (2 : ℚ) ^ Int.log 2 x ≤ x := by
  exact_mod_cast Int.zpow_log_le_self (b := 2) (by norm_num) h

theorem zpow_le_zpow {m n : ℤ} (h : m ≤ n) : (2 : ℚ) ^ m ≤ 2 ^ n := zpow_le_zpow_right₀ (by norm_num) h

theorem roundPos_mono {x y : ℚ} (hx : 0 ≤ x) (h : x ≤ y) : roundPos x ≤ roundPos y := by
  rcases hx.eq_or_lt with rfl | hx
  · rw [roundPos_zero]
    exact roundPos_nonneg h
  · have hlog : Int.log 2 x ≤ Int.log 2 y := Int.log_mono_right hx h
    by_cases heq : exponent x = exponent y
    · have hunit : unit x = unit y := by rw [unit, heq, unit]
      rw [roundPos, roundPos, hunit]
      have hround := nearestEven_mono (div_le_div_of_nonneg_right h (unit_pos y).le)
      exact mul_le_mul_of_nonneg_right (by exact_mod_cast hround) (unit_pos y).le
    · -- the two lie on either side of a power of two, which no rounding crosses
      have hlt : Int.log 2 x < Int.log 2 y ∧ exponent y = Int.log 2 y - 52 ∧ exponent x ≤ Int.log 2 y := by
        unfold exponent at heq ⊢
        omega
      have hbelow : x ≤ 2 ^ Int.log 2 y := (lt_zpow_log x).le.trans (zpow_le_zpow hlt.1)
      rw [zpow_eq_mul_unit hlt.2.2] at hbelow
      have habove := zpow_log_le (hx.trans_le h)
      rw [zpow_eq_mul_unit (x := y) (e := Int.log 2 y) (by omega)] at habove
      have hx' := roundPos_le hbelow
      have hy' := le_roundPos habove
      rw [← zpow_eq_mul_unit hlt.2.2] at hx'
      rw [← zpow_eq_mul_unit (by omega)] at hy'
      exact hx'.trans hy'

theorem round_mono {x y : ℚ} (h : x ≤ y) : round x ≤ round y := by
  unfold round
  by_cases hx : x < 0
  · rw [if_pos hx]
    by_cases hy : y < 0
    · rw [if_pos hy]
      exact neg_le_neg (roundPos_mono (by linarith) (neg_le_neg h))
    · rw [if_neg hy]
      have hneg := roundPos_nonneg (x := -x) (by linarith)
      have hpos := roundPos_nonneg (not_lt.1 hy)
      linarith
  · rw [if_neg hx, if_neg (by linarith)]
    exact roundPos_mono (not_lt.1 hx) h

/-! ### Doubles are left alone -/

/-- A double that is not negative: 53 bits at some exponent. -/
def Representable (x : ℚ) : Prop := ∃ (m : Nat) (e : ℤ), m ≤ 2 ^ 53 ∧ -1074 ≤ e ∧ x = m * 2 ^ e

theorem Representable.nonneg {x : ℚ} (h : Representable x) : 0 ≤ x := by
  obtain ⟨m, e, -, -, rfl⟩ := h
  positivity

theorem representable_roundPos {x : ℚ} (h : 0 ≤ x) : Representable (roundPos x) := by
  have hnonneg : 0 ≤ nearestEven (x / unit x) := by
    have hround := nearestEven_mono (div_nonneg h (unit_pos x).le)
    rwa [← Int.cast_zero, nearestEven_intCast] at hround
  have htop : nearestEven (x / unit x) ≤ 2 ^ 53 := by
    have hle : x / unit x ≤ ((2 ^ 53 : ℤ) : ℚ) := by
      rw [div_le_iff₀ (unit_pos x)]
      calc x ≤ 2 ^ (Int.log 2 x + 1) := (lt_zpow_log x).le
        _ ≤ 2 ^ (53 + exponent x) := zpow_le_zpow (by unfold exponent; omega)
        _ = ((2 ^ 53 : ℤ) : ℚ) * unit x := by
          rw [zpow_add₀ (by norm_num), unit]
          norm_num
    have hround := nearestEven_mono hle
    rwa [nearestEven_intCast] at hround
  obtain ⟨m, hm⟩ := Int.eq_ofNat_of_zero_le hnonneg
  rw [hm] at htop
  refine ⟨m, exponent x, by exact_mod_cast htop, le_max_left .., ?_⟩
  rw [roundPos, hm, unit]
  norm_cast

/-- The unit of a double may be twice as large as that of its bits, and then the bits are even. -/
theorem roundPos_of_representable {x : ℚ} (h : Representable x) : roundPos x = x := by
  obtain ⟨m, e, hm, he, hx⟩ := h
  rcases Nat.eq_zero_or_pos m with rfl | hpos
  · rw [hx, Nat.cast_zero, zero_mul]
    exact roundPos_zero
  · have hpos' : (0 : ℚ) < m := by exact_mod_cast hpos
    by_cases hle : exponent x ≤ e
    · apply roundPos_of_eq (n := m * 2 ^ (e - exponent x).toNat)
      conv_lhs => rw [hx, zpow_eq_mul_unit hle]
      push_cast
      ring
    · have hxpos : 0 < x := by
        rw [hx]
        positivity
      have hlog : exponent x = Int.log 2 x - 52 := by
        unfold exponent at hle ⊢
        omega
      have htop : x ≤ 2 ^ (53 + e) := by
        rw [hx, zpow_add₀ (by norm_num)]
        exact mul_le_mul_of_nonneg_right (by exact_mod_cast hm) (by positivity)
      have hexp : Int.log 2 x ≤ 53 + e := by
        have hle := (zpow_log_le hxpos).trans htop
        exact (zpow_le_zpow_iff_right₀ (by norm_num : (1 : ℚ) < 2)).1 hle
      have hbottom : (2 : ℚ) ^ (53 + e) ≤ x := by
        have hpow : 53 + e = Int.log 2 x := by omega
        rw [hpow]
        exact zpow_log_le hxpos
      apply roundPos_of_eq (n := 2 ^ (53 + e - exponent x).toNat)
      rw [← zpow_eq_mul_unit (by omega)]
      exact le_antisymm htop hbottom

theorem round_of_representable {x : ℚ} (h : Representable x) : round x = x := by
  rw [round, if_neg (not_lt.2 h.nonneg), roundPos_of_representable h]

theorem round_idem (x : ℚ) : round (round x) = round x := by
  by_cases hx : x < 0
  · have hrep := representable_roundPos (x := -x) (by linarith)
    have hround : round x = -roundPos (-x) := if_pos hx
    rcases hrep.nonneg.eq_or_lt with hzero | hpos
    · rw [hround, ← hzero, neg_zero, round, if_neg (lt_irrefl 0), roundPos_zero]
    · rw [hround, round, if_pos (neg_neg_of_pos hpos), neg_neg, roundPos_of_representable hrep]
  · have hround : round x = roundPos x := if_neg hx
    rw [hround]
    exact round_of_representable (representable_roundPos (not_lt.1 hx))

theorem representable_two_pow (n : Nat) : Representable (2 ^ n) := ⟨1, n, by norm_num, by omega, by simp⟩

end Binary64

/-- Doubles, but for the largest exponent. -/
def Rounding.binary64 : Rounding where
  round := Binary64.round
  mono := Binary64.round_mono
  idem := Binary64.round_idem
  zero := Binary64.round_of_representable ⟨0, 0, by norm_num, by norm_num, by simp⟩
  one := Binary64.round_of_representable (by simpa using Binary64.representable_two_pow 0)
  unbounded x := by
    obtain ⟨n, hn⟩ := pow_unbounded_of_one_lt x (by norm_num : (1 : ℚ) < 2)
    refine ⟨2 ^ n, ?_⟩
    rw [Binary64.round_of_representable (Binary64.representable_two_pow n)]
    exact hn.le

/-- One is taken exactly from every double from one to 2 to the 53. -/
theorem Binary64.round_sub_one {x : ℚ} (hx : Rounding.binary64.round x = x) (hone : 1 ≤ x) (htop : x ≤ 2 ^ 53) :
    Rounding.binary64.round (x - 1) = x - 1 := by
  have hround : Binary64.roundPos x = x := by
    have : Binary64.round x = Binary64.roundPos x := if_neg (by linarith)
    rw [← this]
    exact hx
  obtain ⟨m, e, hm, he, heq⟩ := Binary64.representable_roundPos (x := x) (by linarith)
  rw [hround] at heq
  apply Binary64.round_of_representable
  rcases le_or_gt 0 e with hpos | hneg
  · obtain ⟨k, rfl⟩ := Int.eq_ofNat_of_zero_le hpos
    have hnat : x = (m * 2 ^ k : Nat) := by
      rw [heq]
      push_cast
      norm_cast
    rw [hnat] at hone htop ⊢
    have hone' : 1 ≤ m * 2 ^ k := by exact_mod_cast hone
    have htop' : m * 2 ^ k ≤ 2 ^ 53 := by exact_mod_cast htop
    refine ⟨m * 2 ^ k - 1, 0, by omega, by norm_num, ?_⟩
    rw [Nat.cast_sub hone']
    norm_num
  · obtain ⟨k, hk⟩ := Int.eq_ofNat_of_zero_le (neg_nonneg.2 hneg.le)
    obtain rfl : e = -k := by omega
    have hscale : (2 : ℚ) ^ (-k : ℤ) * 2 ^ k = 1 := by
      rw [zpow_neg, zpow_natCast]
      exact inv_mul_cancel₀ (by positivity)
    have hle : 2 ^ k ≤ m := by
      have : (2 : ℚ) ^ k ≤ m := by
        calc (2 : ℚ) ^ k ≤ x * 2 ^ k := le_mul_of_one_le_left (by positivity) hone
          _ = m := by rw [heq, mul_assoc, hscale, mul_one]
      exact_mod_cast this
    refine ⟨m - 2 ^ k, -k, (Nat.sub_le m _).trans hm, he, ?_⟩
    rw [heq, Nat.cast_sub hle, sub_mul]
    push_cast
    linarith

end Graftcode
