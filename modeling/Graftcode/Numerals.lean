import Mathlib.Algebra.Group.Nat.Defs
import Mathlib.Data.List.Basic
import Graftcode.Cpp
/-!
# Numerals — numbers as an `std::ostream` writes them

`oss << n` writes a number in decimal, after `std::hex` in lower-case hexadecimal; `std::setw` with `std::setfill('0')`
fills it up with zeros from the left.  Each text tells its number, and what can follow it.
-/
namespace Graftcode
namespace Numeral

/-- `std::hex << std::setfill('0') << std::setw(width) << n`. -/
def hex (width n : Nat) : Text := List.leftpad width '0' (Nat.toDigits 16 n)

def decimal (n : Nat) : Text := Nat.toDigits 10 n

/-- A signed number. -/
def signed : Int → Text
  | .ofNat n   => decimal n
  | .negSucc n => '-' :: decimal (n + 1)

/-! ## The number of a text -/

def digitValue (c : Char) : Nat := if c.isDigit then c.toNat - 48 else c.toNat - 87

def valueOf (base : Nat) (text : Text) : Nat := text.foldl (fun value c => base * value + digitValue c) 0

theorem digitValue_digitChar {d : Nat} (hd : d < 16) : digitValue d.digitChar = d := by
  have hall : ∀ d : Fin 16, digitValue d.val.digitChar = d.val := by decide
  exact hall ⟨d, hd⟩

theorem valueOf_concat (base : Nat) (text : Text) (c : Char) :
    valueOf base (text ++ [c]) = base * valueOf base text + digitValue c := by
  unfold valueOf
  rw [List.foldl_append]
  rfl

theorem valueOf_toDigits {base : Nat} (hlo : 1 < base) (hhi : base ≤ 16) (n : Nat) :
    valueOf base (Nat.toDigits base n) = n := by
  induction n using Nat.strongRecOn with
  | ind n ih =>
    rw [Nat.toDigits_eq_if hlo]
    split
    · rename_i hn
      simpa [valueOf] using digitValue_digitChar (Nat.lt_of_lt_of_le hn hhi)
    · have hmod : n % base < 16 := Nat.lt_of_lt_of_le (Nat.mod_lt n (by omega)) hhi
      rw [valueOf_concat, ih (n / base) (Nat.div_lt_self (by omega) hlo), digitValue_digitChar hmod]
      exact Nat.div_add_mod n base

theorem valueOf_pad (base k : Nat) (text : Text) :
    valueOf base (List.replicate k '0' ++ text) = valueOf base text := by
  have hzero : valueOf base (List.replicate k '0') = 0 := by
    induction k with
    | zero => rfl
    | succ k ih =>
      rw [List.replicate_succ', valueOf_concat, ih]
      rfl
  unfold valueOf at hzero ⊢
  rw [List.foldl_append, hzero]

@[simp] theorem valueOf_hex (width n : Nat) : valueOf 16 (hex width n) = n := by
  rw [hex, List.leftpad, valueOf_pad]
  exact valueOf_toDigits (by decide) (by decide) n

theorem hex_injective (width : Nat) : Function.Injective (hex width) := fun n m h => by
  rw [← valueOf_hex width n, h, valueOf_hex]

theorem decimal_injective : Function.Injective decimal := fun n m h => by
  have hvalue : ∀ n, valueOf 10 (decimal n) = n := fun n => valueOf_toDigits (by decide) (by decide) n
  rw [← hvalue n, h, hvalue m]

/-! ## Its characters -/

theorem length_hex {width n : Nat} (hw : 0 < width) (hn : n < 16 ^ width) : (hex width n).length = width := by
  have hle : (Nat.toDigits 16 n).length ≤ width := (Nat.length_toDigits_le_iff (by decide) hw).2 hn
  simp only [hex, List.leftpad, List.length_append, List.length_replicate]
  omega

/-- A lower-case hexadecimal digit. -/
def IsHex (c : Char) : Prop := c ∈ "0123456789abcdef".toList

instance : DecidablePred IsHex := fun c => inferInstanceAs (Decidable (c ∈ "0123456789abcdef".toList))

theorem isHex_digitChar {d : Nat} (hd : d < 16) : IsHex d.digitChar := by
  have hall : ∀ d : Fin 16, d.val.digitChar ∈ "0123456789abcdef".toList := by decide
  exact hall ⟨d, hd⟩

theorem isHex_of_mem_toDigits {n : Nat} {c : Char} (hc : c ∈ Nat.toDigits 16 n) : IsHex c := by
  induction n using Nat.strongRecOn with
  | ind n ih =>
    rw [Nat.toDigits_eq_if (by decide)] at hc
    split at hc
    · rename_i hn
      rw [List.mem_singleton.1 hc]
      exact isHex_digitChar hn
    · rcases List.mem_append.1 hc with hc | hc
      · exact ih (n / 16) (by omega) hc
      · rw [List.mem_singleton.1 hc]
        exact isHex_digitChar (Nat.mod_lt n (by decide))

theorem isHex_of_mem_hex {width n : Nat} {c : Char} (hc : c ∈ hex width n) : IsHex c := by
  rcases List.mem_append.1 hc with hc | hc
  · rw [List.eq_of_mem_replicate hc]
    decide
  · exact isHex_of_mem_toDigits hc

theorem dash_not_mem_decimal (n : Nat) : '-' ∉ decimal n := fun hm =>
  Bool.false_ne_true (Nat.isDigit_of_mem_toDigits (by decide) (by decide) hm)

/-- The last digit on its own. -/
theorem hex_succ {k : Nat} (hk : 0 < k) (n : Nat) : hex (k + 1) n = hex k (n / 16) ++ [(n % 16).digitChar] := by
  unfold hex List.leftpad
  by_cases hn : n < 16
  · have hdigit : Nat.toDigits 16 n = [n.digitChar] := Nat.toDigits_of_lt_base hn
    rw [hdigit, Nat.div_eq_of_lt hn, Nat.mod_eq_of_lt hn, Nat.toDigits_zero, ← List.replicate_succ']
    simp only [List.length_singleton]
    rw [Nat.add_sub_cancel, Nat.sub_add_cancel hk]
  · have hdigits : Nat.toDigits 16 n = Nat.toDigits 16 (n / 16) ++ [(n % 16).digitChar] :=
      Nat.toDigits_of_base_le (by decide) (Nat.le_of_not_lt hn)
    rw [hdigits, List.length_append, List.length_singleton, Nat.add_sub_add_right, List.append_assoc]

theorem hex_one {n : Nat} (hn : n < 16) : hex 1 n = [n.digitChar] := by
  unfold hex
  rw [Nat.toDigits_of_lt_base hn]
  rfl

/-- What comes after the last dash tells the number. -/
theorem decimal_after_dash {before before' : Text} {n m : Nat}
    (h : before ++ '-' :: decimal n = before' ++ '-' :: decimal m) : before = before' ∧ n = m := by
  induction before generalizing before' with
  | nil =>
    cases before' with
    | nil => exact ⟨rfl, decimal_injective (List.cons.inj h).2⟩
    | cons c before' =>
      have htail := (List.cons.inj h).2
      refine absurd ?_ (dash_not_mem_decimal n)
      rw [htail]
      simp
  | cons c before ih =>
    cases before' with
    | nil =>
      have htail := (List.cons.inj h).2
      refine absurd ?_ (dash_not_mem_decimal m)
      rw [← htail]
      simp
    | cons c' before' =>
      obtain ⟨rfl, htail⟩ := List.cons.inj h
      obtain ⟨rfl, rfl⟩ := ih htail
      exact ⟨rfl, rfl⟩

end Numeral
end Graftcode
