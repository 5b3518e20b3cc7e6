import Mathlib.Data.List.DropRight
import Mathlib.Data.Nat.Bitwise
import Mathlib.Data.Nat.ModEq
import Graftcode.Cpp
import Graftcode.Rfc4648
/-!
# PubSubBase64 — `Base64Encode` and `Base64Decode`

`PubSubUtil.cpp`.  The decoder shifts six bits at a time into an `unsigned int` that is never masked, so on a long input
the accumulator wraps; the bits it still needs are always the lowest ones.  What it reads is `Rfc4648.octets` of the
values of the text (`base64Decode_iff`), what the encoder writes is `Rfc4648.sextets` (`base64Encode_eq`).
-/
namespace Graftcode
namespace PubSub

open Rfc4648 (sextets octets padding standardTable urlSafeTable Writes WritesEither)

/-! ## Encoding -/

def kTable : List Char := "ABCDEFGHIJKLMNOPQRSTUVWXYZabcdefghijklmnopqrstuvwxyz0123456789+/".toList

/-- `kTable[(value >> shift) & 63]`. -/
def tableChar (value : UInt32) (shift : UInt32) : Char := kTable.getD ((value >>> shift) &&& 63).toNat '\x00'

def base64Encode : Bytes → Text
  | a :: b :: c :: rest =>
    let value := (a.toUInt32 <<< 16) ||| (b.toUInt32 <<< 8) ||| c.toUInt32
    tableChar value 18 :: tableChar value 12 :: tableChar value 6 :: tableChar value 0 :: base64Encode rest
  | [a, b] =>
    let value := (a.toUInt32 <<< 16) ||| (b.toUInt32 <<< 8)
    [tableChar value 18, tableChar value 12, tableChar value 6, '=']
  | [a] =>
    let value := a.toUInt32 <<< 16
    [tableChar value 18, tableChar value 12, '=', '=']
  | [] => []

/-! ## Decoding -/

/-- `none` is the source's `-1`. -/
def base64Value (character : Char) : Option Nat :=
  if 'A' ≤ character ∧ character ≤ 'Z' then some (character.toNat - 'A'.toNat)
  else if 'a' ≤ character ∧ character ≤ 'z' then some (character.toNat - 'a'.toNat + 26)
  else if '0' ≤ character ∧ character ≤ '9' then some (character.toNat - '0'.toNat + 52)
  else if character = '+' ∨ character = '-' then some 62
  else if character = '/' ∨ character = '_' then some 63
  else none

def notBase64 : Text := "Pub/Sub plugin: message data is not valid base64".toList

/-- The first loop: white space goes, anything else outside the alphabet is refused. -/
def base64Filter : Text → Except Text Text
  | [] => .ok []
  | c :: cs =>
    if c = '=' ∨ (base64Value c).isSome then (base64Filter cs).map (c :: ·)
    else if c = ' ' ∨ c = '\n' ∨ c = '\r' ∨ c = '\t' then base64Filter cs
    else .error notBase64

/-- `while (!filtered.empty() && filtered.back() == '=') filtered.pop_back();` -/
def stripPadding (filtered : Text) : Text := filtered.rdropWhile (· == '=')

/-- The second loop, from its accumulator and its count of bits. -/
def decodeFrom : UInt32 → Nat → Text → Except Text Bytes
  | _, _, [] => .ok []
  | accumulator, bits, c :: cs =>
    match base64Value c with
    | none => .error notBase64
    | some value =>
      let accumulator := (accumulator <<< 6) ||| UInt32.ofNat value
      let bits := bits + 6
      if 8 ≤ bits then
        let bits := bits - 8
        (decodeFrom accumulator bits cs).map (((accumulator >>> UInt32.ofNat bits) &&& 0xFF).toUInt8 :: ·)
      else decodeFrom accumulator bits cs

def base64Decode (encoded : Text) : Except Text Bytes :=
  match base64Filter encoded with
  | .error e     => .error e
  | .ok filtered => decodeFrom 0 0 (stripPadding filtered)

/-! ## The alphabet -/

theorem toNat_shift (value shift : UInt32) (hs : shift.toNat < 32) :
    ((value >>> shift) &&& 63).toNat = value.toNat / 2 ^ shift.toNat % 64 := by
  rw [UInt32.toNat_and, UInt32.toNat_shiftRight, Nat.mod_eq_of_lt hs, Nat.shiftRight_eq_div_pow]
  exact Nat.and_two_pow_sub_one_eq_mod _ 6

theorem tableChar_eq (value shift : UInt32) (hs : shift.toNat < 32) :
    tableChar value shift = kTable.getD (value.toNat / 2 ^ shift.toNat % 64) '\x00' := by
  rw [tableChar, toNat_shift value shift hs]

theorem kTable_eq : kTable = standardTable := by decide +kernel

theorem writes_kTable {v : Nat} (hv : v < 64) : Writes standardTable (kTable.getD v '\x00') v := by
  have hlen : v < standardTable.length := hv
  rw [kTable_eq, List.getD_eq_getElem?_getD, List.getElem?_eq_getElem hlen]
  exact List.getElem?_eq_getElem hlen

theorem base64Value_eq_some {c : Char} {v : Nat} (h : base64Value c = some v) : c.toNat < 123 := by
  unfold base64Value at h
  by_contra hlt
  have hge : 123 ≤ c.toNat := Nat.le_of_not_lt hlt
  have hZ : ¬ c ≤ 'Z' := fun hc => by
    have : c.toNat ≤ 90 := Char.le_def.1 hc
    omega
  have hz : ¬ c ≤ 'z' := fun hc => by
    have : c.toNat ≤ 122 := Char.le_def.1 hc
    omega
  have h9 : ¬ c ≤ '9' := fun hc => by
    have : c.toNat ≤ 57 := Char.le_def.1 hc
    omega
  have hne : ∀ d : Char, d.toNat < 123 → c ≠ d := by
    rintro d hd rfl
    omega
  rw [if_neg fun hc => hZ hc.2, if_neg fun hc => hz hc.2, if_neg fun hc => h9 hc.2, if_neg, if_neg] at h
  · cases h
  · rintro (hc | hc)
    · exact hne '/' (by decide) hc
    · exact hne '_' (by decide) hc
  · rintro (hc | hc)
    · exact hne '+' (by decide) hc
    · exact hne '-' (by decide) hc

theorem writesEither_of_lt : ∀ n < 123, ∀ v ∈ base64Value (Char.ofNat n), WritesEither (Char.ofNat n) v := by
  unfold WritesEither Writes
  decide +kernel

theorem base64Value_standard : ∀ v < 64, (standardTable[v]?).bind base64Value = some v := by decide +kernel

theorem base64Value_urlSafe : ∀ v < 64, (urlSafeTable[v]?).bind base64Value = some v := by decide +kernel

/-- The decoder's alphabet is the union of the two of RFC 4648. -/
theorem writesEither_iff {c : Char} {v : Nat} : WritesEither c v ↔ base64Value c = some v := by
  constructor
  · rintro (h | h)
    · have hv : v < 64 := (List.getElem?_eq_some_iff.1 h).1
      have := base64Value_standard v hv
      rwa [show standardTable[v]? = some c from h] at this
    · have hv : v < 64 := (List.getElem?_eq_some_iff.1 h).1
      have := base64Value_urlSafe v hv
      rwa [show urlSafeTable[v]? = some c from h] at this
  · intro h
    have := writesEither_of_lt c.toNat (base64Value_eq_some h) v
    rw [Char.ofNat_toNat] at this
    exact this h

theorem base64Value_lt {c : Char} {v : Nat} (h : base64Value c = some v) : v < 64 := by
  rcases writesEither_iff.2 h with hw | hw
  · exact (List.getElem?_eq_some_iff.1 hw).1
  · exact (List.getElem?_eq_some_iff.1 hw).1

theorem base64Value_ne_pad {c : Char} {v : Nat} (h : base64Value c = some v) : c ≠ '=' := by
  rintro rfl
  revert h
  simp [base64Value]

/-! ## What the encoder writes -/

theorem toNat_word (a b c : Byte) :
    ((a.toUInt32 <<< 16) ||| (b.toUInt32 <<< 8) ||| c.toUInt32).toNat = a.toNat * 65536 + b.toNat * 256 + c.toNat := by
  have ha := a.toNat_lt
  have hb := b.toNat_lt
  have hc := c.toNat_lt
  have ha' : (a.toUInt32 <<< 16).toNat = a.toNat <<< 16 := by
    have h16 : (16 : UInt32).toNat % 32 = 16 := rfl
    rw [UInt32.toNat_shiftLeft, UInt8.toNat_toUInt32, h16, Nat.shiftLeft_eq]
    omega
  have hb' : (b.toUInt32 <<< 8).toNat = b.toNat * 256 := by
    have h8 : (8 : UInt32).toNat % 32 = 8 := rfl
    rw [UInt32.toNat_shiftLeft, UInt8.toNat_toUInt32, h8, Nat.shiftLeft_eq]
    omega
  have hab : a.toNat <<< 16 + b.toNat * 256 = (a.toNat * 256 + b.toNat) <<< 8 := by
    rw [Nat.shiftLeft_eq, Nat.shiftLeft_eq]
    omega
  rw [UInt32.toNat_or, UInt32.toNat_or, ha', hb', UInt8.toNat_toUInt32,
    ← Nat.shiftLeft_add_eq_or_of_lt (i := 16) (by omega), hab, ← Nat.shiftLeft_add_eq_or_of_lt (i := 8) (by omega),
    Nat.shiftLeft_eq]
  omega

theorem padding_add_four (n : Nat) : padding (n + 4) = padding n := by
  unfold padding
  rw [Nat.add_mod_right]

/-- **The encoder** writes the sextets in the standard alphabet, with all of the padding. -/
theorem base64Encode_eq : ∀ (bytes : Bytes), base64Encode bytes =
    (sextets bytes).map (fun v => kTable.getD v '\x00') ++ List.replicate (padding (sextets bytes).length) '='
  | a :: b :: c :: rest => by
    have hb := b.toNat_lt
    have hc := c.toNat_lt
    have ih := base64Encode_eq rest
    have hv := toNat_word a b c
    rw [base64Encode]
    generalize (a.toUInt32 <<< 16) ||| (b.toUInt32 <<< 8) ||| c.toUInt32 = value at hv
    have ha := a.toNat_lt
    have h18 : value.toNat / 2 ^ (18 : UInt32).toNat % 64 = a.toNat / 4 := by
      change value.toNat / 2 ^ 18 % 64 = _
      omega
    have h12 : value.toNat / 2 ^ (12 : UInt32).toNat % 64 = a.toNat % 4 * 16 + b.toNat / 16 := by
      change value.toNat / 2 ^ 12 % 64 = _
      omega
    have h6 : value.toNat / 2 ^ (6 : UInt32).toNat % 64 = b.toNat % 16 * 4 + c.toNat / 64 := by
      change value.toNat / 2 ^ 6 % 64 = _
      omega
    have h0 : value.toNat / 2 ^ (0 : UInt32).toNat % 64 = c.toNat % 64 := by
      change value.toNat / 2 ^ 0 % 64 = _
      omega
    simp only [tableChar_eq value 18 (by decide), tableChar_eq value 12 (by decide), tableChar_eq value 6 (by decide),
      tableChar_eq value 0 (by decide), h18, h12, h6, h0, ih, sextets, List.map_cons, List.cons_append, List.length_cons]
    rw [show (sextets rest).length + 1 + 1 + 1 + 1 = (sextets rest).length + 4 from rfl, padding_add_four]
  | [a, b] => by
    have ha := a.toNat_lt
    have hb := b.toNat_lt
    have hv := toNat_word a b 0
    have h00 : (0 : Byte).toNat = 0 := rfl
    have hor : (a.toUInt32 <<< 16) ||| (b.toUInt32 <<< 8) ||| (0 : Byte).toUInt32 =
        (a.toUInt32 <<< 16) ||| (b.toUInt32 <<< 8) := by simp
    rw [hor] at hv
    rw [base64Encode]
    generalize (a.toUInt32 <<< 16) ||| (b.toUInt32 <<< 8) = value at hv
    have h18 : value.toNat / 2 ^ (18 : UInt32).toNat % 64 = a.toNat / 4 := by
      change value.toNat / 2 ^ 18 % 64 = _
      omega
    have h12 : value.toNat / 2 ^ (12 : UInt32).toNat % 64 = a.toNat % 4 * 16 + b.toNat / 16 := by
      change value.toNat / 2 ^ 12 % 64 = _
      omega
    have h6 : value.toNat / 2 ^ (6 : UInt32).toNat % 64 = b.toNat % 16 * 4 := by
      change value.toNat / 2 ^ 6 % 64 = _
      omega
    simp only [tableChar_eq value 18 (by decide), tableChar_eq value 12 (by decide), tableChar_eq value 6 (by decide), h18,
      h12, h6]
    rfl
  | [a] => by
    have ha := a.toNat_lt
    have hv := toNat_word a 0 0
    have h00 : (0 : Byte).toNat = 0 := rfl
    have hor : (a.toUInt32 <<< 16) ||| ((0 : Byte).toUInt32 <<< 8) ||| (0 : Byte).toUInt32 = a.toUInt32 <<< 16 := by simp
    rw [hor] at hv
    rw [base64Encode]
    generalize a.toUInt32 <<< 16 = value at hv
    have h18 : value.toNat / 2 ^ (18 : UInt32).toNat % 64 = a.toNat / 4 := by
      change value.toNat / 2 ^ 18 % 64 = _
      omega
    have h12 : value.toNat / 2 ^ (12 : UInt32).toNat % 64 = a.toNat % 4 * 16 := by
      change value.toNat / 2 ^ 12 % 64 = _
      omega
    simp only [tableChar_eq value 18 (by decide), tableChar_eq value 12 (by decide), h18, h12]
    rfl
  | [] => rfl

/-! ## What the decoder reads -/

theorem toNat_push (accumulator : UInt32) {value : Nat} (hv : value < 64) :
    ((accumulator <<< 6) ||| UInt32.ofNat value).toNat = (accumulator.toNat * 64 + value) % 2 ^ 32 := by
  have hval : (UInt32.ofNat value).toNat = value := by
    rw [UInt32.toNat_ofNat']
    omega
  have hshift : (accumulator <<< 6).toNat = (accumulator.toNat % 2 ^ 26) <<< 6 := by
    rw [UInt32.toNat_shiftLeft, Nat.shiftLeft_eq, Nat.shiftLeft_eq]
    have : (6 : UInt32).toNat % 32 = 6 := rfl
    rw [this]
    omega
  rw [UInt32.toNat_or, hval, hshift, ← Nat.shiftLeft_add_eq_or_of_lt (i := 6) hv, Nat.shiftLeft_eq]
  omega

theorem emit_eq (accumulator : UInt32) {bits : Nat} (hb : bits < 32) :
    ((accumulator >>> UInt32.ofNat bits) &&& 0xFF).toUInt8 = UInt8.ofNat (accumulator.toNat / 2 ^ bits % 256) := by
  have hbits : (UInt32.ofNat bits).toNat % 32 = bits := by
    rw [UInt32.toNat_ofNat']
    omega
  have hmask : ((accumulator >>> UInt32.ofNat bits) &&& 0xFF).toNat = accumulator.toNat / 2 ^ bits % 256 := by
    rw [UInt32.toNat_and, UInt32.toNat_shiftRight, hbits, Nat.shiftRight_eq_div_pow]
    exact Nat.and_two_pow_sub_one_eq_mod _ 8
  rw [← UInt8.toNat_inj, UInt32.toNat_toUInt8, hmask, UInt8.toNat_ofNat']

/-- The second loop over an accumulator that never wraps. -/
def decodeUnbounded : Nat → Nat → Text → Except Text Bytes
  | _, _, [] => .ok []
  | accumulator, bits, c :: cs =>
    match base64Value c with
    | none => .error notBase64
    | some value =>
      let accumulator := accumulator * 64 + value
      let bits := bits + 6
      if 8 ≤ bits then
        let bits := bits - 8
        (decodeUnbounded accumulator bits cs).map (UInt8.ofNat (accumulator / 2 ^ bits) :: ·)
      else decodeUnbounded accumulator bits cs

theorem ofNat_mod (n : Nat) : UInt8.ofNat (n % 256) = UInt8.ofNat n := by
  rw [← UInt8.toNat_inj, UInt8.toNat_ofNat', UInt8.toNat_ofNat', Nat.mod_mod]

theorem ofNat_congr {m n : Nat} (h : m % 256 = n % 256) : UInt8.ofNat m = UInt8.ofNat n := by
  rw [← ofNat_mod m, h, ofNat_mod]

theorem push_mod {a n bits : Nat} (v : Nat) (hb : bits < 8) (h : a % 2 ^ bits = n % 2 ^ bits) :
    (a * 64 + v) % 2 ^ 32 % 2 ^ (bits + 6) = (n * 64 + v) % 2 ^ (bits + 6) := by
  have hdvd : 2 ^ (bits + 6) ∣ 2 ^ 32 := Nat.pow_dvd_pow 2 (by omega)
  have hmul : a * 64 ≡ n * 64 [MOD 2 ^ bits * 64] := Nat.ModEq.mul_right' 64 h
  rw [Nat.mod_mod_of_dvd _ hdvd, Nat.pow_add]
  exact Nat.ModEq.add_right v hmul

/-- **The accumulator wraps unseen**: only its lowest `bits` bits are ever used again. -/
theorem decodeFrom_eq : ∀ (cs : Text) (accumulator : UInt32) (n bits : Nat), bits < 8 →
    accumulator.toNat % 2 ^ bits = n % 2 ^ bits → decodeFrom accumulator bits cs = decodeUnbounded n bits cs
  | [], _, _, _, _, _ => rfl
  | c :: cs, accumulator, n, bits, hb, h => by
    cases hc : base64Value c with
    | none => simp only [decodeFrom, decodeUnbounded, hc]
    | some value =>
      have hpush := toNat_push accumulator (base64Value_lt hc)
      have hmod := push_mod value hb h
      rw [← hpush] at hmod
      simp only [decodeFrom, decodeUnbounded, hc]
      generalize (accumulator <<< 6) ||| UInt32.ofNat value = acc at hmod
      by_cases h8 : 8 ≤ bits + 6
      · have hsplit : 2 ^ (bits + 6) = 2 ^ (bits + 6 - 8) * 256 := by
          rw [show (256 : Nat) = 2 ^ 8 from rfl, ← Nat.pow_add]
          congr 1
          omega
        have hlow : acc.toNat % 2 ^ (bits + 6 - 8) = (n * 64 + value) % 2 ^ (bits + 6 - 8) := by
          have hdvd : 2 ^ (bits + 6 - 8) ∣ 2 ^ (bits + 6) := Nat.pow_dvd_pow 2 (by omega)
          rw [← Nat.mod_mod_of_dvd acc.toNat hdvd, hmod, Nat.mod_mod_of_dvd _ hdvd]
        have hbyte : acc.toNat / 2 ^ (bits + 6 - 8) % 256 = (n * 64 + value) / 2 ^ (bits + 6 - 8) % 256 := by
          rw [hsplit] at hmod
          rw [← Nat.mod_mul_right_div_self, hmod, Nat.mod_mul_right_div_self]
        rw [if_pos h8, if_pos h8, emit_eq acc (by omega), hbyte, ofNat_mod, decodeFrom_eq cs acc _ _ (by omega) hlow]
      · rw [if_neg h8, if_neg h8]
        exact decodeFrom_eq cs acc _ _ (by omega) hmod

/-- The octets of a group of four values, of which the higher ones are those of what came before. -/
theorem octet_first (n v w : Nat) :
    UInt8.ofNat (((n * 64 + v) * 64 + w) / 2 ^ 4) = UInt8.ofNat (v * 4 + w / 16) := ofNat_congr (by omega)

theorem octet_second (n v w x : Nat) :
    UInt8.ofNat ((((n * 64 + v) * 64 + w) * 64 + x) / 2 ^ 2) = UInt8.ofNat (w % 16 * 16 + x / 4) :=
  ofNat_congr (by omega)

theorem octet_third (n v w x y : Nat) :
    UInt8.ofNat (((((n * 64 + v) * 64 + w) * 64 + x) * 64 + y) / 2 ^ 0) = UInt8.ofNat (x % 4 * 64 + y) :=
  ofNat_congr (by omega)

theorem decodeUnbounded_octets {cs : Text} {values : List Nat}
    (h : List.Forall₂ (fun c v => base64Value c = some v) cs values) (n : Nat) :
    decodeUnbounded n 0 cs = .ok (octets values) := by
  fun_induction octets values generalizing cs n with
  | case1 v w x y rest ih =>
    obtain _ | ⟨hv, _ | ⟨hw, _ | ⟨hx, _ | ⟨hy, hrest⟩⟩⟩⟩ := h
    have h1 := octet_first n v w
    have h2 := octet_second n v w x
    have h3 := octet_third n v w x y
    simp only [decodeUnbounded, hv, hw, hx, hy, ← h1, ← h2, ← h3]
    simp [ih hrest, Except.map]
  | case2 v w x =>
    obtain _ | ⟨hv, _ | ⟨hw, _ | ⟨hx, _ | _⟩⟩⟩ := h
    have h1 := octet_first n v w
    have h2 := octet_second n v w x
    simp only [decodeUnbounded, hv, hw, hx, ← h1, ← h2]
    rfl
  | case3 v w =>
    obtain _ | ⟨hv, _ | ⟨hw, _ | _⟩⟩ := h
    have h1 := octet_first n v w
    simp only [decodeUnbounded, hv, hw, ← h1]
    rfl
  | case4 v =>
    obtain _ | ⟨hv, _ | _⟩ := h
    simp only [decodeUnbounded, hv]
    rfl
  | case5 =>
    cases h
    rfl

theorem values_of_decodeUnbounded : ∀ {cs : Text} {n bits : Nat} {bytes : Bytes}, decodeUnbounded n bits cs = .ok bytes →
    ∃ values, List.Forall₂ (fun c v => base64Value c = some v) cs values
  | [], _, _, _, _ => ⟨[], .nil⟩
  | c :: cs, n, bits, bytes, h => by
    cases hc : base64Value c with
    | none => simp [decodeUnbounded, hc] at h
    | some value =>
      simp only [decodeUnbounded, hc] at h
      by_cases h8 : 8 ≤ bits + 6
      · rw [if_pos h8] at h
        cases hrest : decodeUnbounded (n * 64 + value) (bits + 6 - 8) cs with
        | error e => simp only [hrest, Except.map, reduceCtorEq] at h
        | ok rest =>
          obtain ⟨values, hvalues⟩ := values_of_decodeUnbounded hrest
          exact ⟨value :: values, .cons hc hvalues⟩
      · rw [if_neg h8] at h
        obtain ⟨values, hvalues⟩ := values_of_decodeUnbounded h
        exact ⟨value :: values, .cons hc hvalues⟩

/-! ### White space and padding -/

def isBlank (c : Char) : Bool := c = ' ' ∨ c = '\n' ∨ c = '\r' ∨ c = '\t'

def dropBlanks (text : Text) : Text := text.filter (!isBlank ·)

theorem not_blank_of_value {c : Char} (h : c = '=' ∨ (base64Value c).isSome) : isBlank c = false := by
  rw [isBlank, decide_eq_false_iff_not]
  rintro (rfl | rfl | rfl | rfl)
  all_goals
    revert h
    simp [base64Value]

/-- The first loop keeps all but the blanks, or fails. -/
theorem base64Filter_iff : ∀ {text out : Text}, base64Filter text = .ok out ↔
    dropBlanks text = out ∧ ∀ c ∈ out, c = '=' ∨ (base64Value c).isSome
  | [], out => by
    simp only [base64Filter, dropBlanks, List.filter_nil, Except.ok.injEq]
    constructor
    · rintro rfl
      exact ⟨rfl, fun c hc => by cases hc⟩
    · exact fun h => h.1
  | c :: cs, out => by
    by_cases hc : c = '=' ∨ (base64Value c).isSome
    · have hb := not_blank_of_value hc
      rw [base64Filter, if_pos hc, dropBlanks, List.filter_cons_of_pos (by simp [hb])]
      cases hr : base64Filter cs with
      | error e =>
        have hno : ∀ rest, ¬ (dropBlanks cs = rest ∧ ∀ d ∈ rest, d = '=' ∨ (base64Value d).isSome) := fun rest h => by
          have := base64Filter_iff.2 h
          rw [hr] at this
          cases this
        simp only [Except.map, reduceCtorEq, false_iff]
        rintro ⟨rfl, hall⟩
        exact hno _ ⟨rfl, fun d hd => hall d (List.mem_cons_of_mem _ hd)⟩
      | ok rest =>
        obtain ⟨hdrop, hall⟩ := base64Filter_iff.1 hr
        have hdrop' : cs.filter (!isBlank ·) = rest := hdrop
        simp only [Except.map, Except.ok.injEq, hdrop']
        constructor
        · rintro rfl
          refine ⟨rfl, fun d hd => ?_⟩
          rcases List.mem_cons.1 hd with rfl | hd
          · exact hc
          · exact hall d hd
        · exact fun h => h.1
    · by_cases hb : isBlank c = true
      · have hb' : c = ' ' ∨ c = '\n' ∨ c = '\r' ∨ c = '\t' := by simpa [isBlank] using hb
        rw [base64Filter, if_neg hc, if_pos hb', dropBlanks, List.filter_cons_of_neg (by simp [hb])]
        exact base64Filter_iff
      · have hb' : ¬ (c = ' ' ∨ c = '\n' ∨ c = '\r' ∨ c = '\t') := by simpa [isBlank] using hb
        rw [base64Filter, if_neg hc, if_neg hb', dropBlanks, List.filter_cons_of_pos (by simp [hb])]
        simp only [reduceCtorEq, false_iff]
        rintro ⟨rfl, hall⟩
        exact hc (hall c List.mem_cons_self)

theorem stripPadding_append {body : Text} (hbody : ∀ c ∈ body, c ≠ '=') (k : Nat) :
    stripPadding (body ++ List.replicate k '=') = body :=
  Rfc4648.rdropWhile_pad hbody k

theorem stripPadding_split (text : Text) : ∃ k, text = stripPadding text ++ List.replicate k '=' := by
  induction text using List.reverseRecOn with
  | nil => exact ⟨0, by simp [stripPadding]⟩
  | append_singleton text c ih =>
    unfold stripPadding at ih ⊢
    by_cases hc : c = '='
    · obtain ⟨k, hk⟩ := ih
      refine ⟨k + 1, ?_⟩
      rw [List.rdropWhile_concat_pos _ _ _ (by simpa using hc), List.replicate_succ', ← List.append_assoc, ← hk, hc]
    · refine ⟨0, ?_⟩
      rw [List.rdropWhile_concat_neg _ _ _ (by simpa using hc), List.replicate_zero, List.append_nil]

/-- `values` are what the characters of `body` stand for. -/
abbrev Reads (body : Text) (values : List Nat) : Prop := List.Forall₂ (fun c v => base64Value c = some v) body values

theorem Reads.forall_ne_pad {body : Text} {values : List Nat} (h : Reads body values) : ∀ c ∈ body, c ≠ '=' := by
  induction h with
  | nil => exact fun c hc => by cases hc
  | cons hv _ ih =>
    intro c hc
    rcases List.mem_cons.1 hc with rfl | hc
    · exact base64Value_ne_pad hv
    · exact ih c hc

theorem Reads.forall_isSome {body : Text} {values : List Nat} (h : Reads body values) :
    ∀ c ∈ body, (base64Value c).isSome := by
  induction h with
  | nil => exact fun c hc => by cases hc
  | cons hv _ ih =>
    intro c hc
    rcases List.mem_cons.1 hc with rfl | hc
    · rw [hv]
      rfl
    · exact ih c hc

/-- **The decoder**: blanks go, trailing `=` go, and the octets that the values fill are returned. -/
theorem base64Decode_iff {text : Text} {bytes : Bytes} : base64Decode text = .ok bytes ↔
    ∃ body k values, dropBlanks text = body ++ List.replicate k '=' ∧ Reads body values ∧ octets values = bytes := by
  constructor
  · intro h
    unfold base64Decode at h
    cases hf : base64Filter text with
    | error e => simp [hf] at h
    | ok filtered =>
      simp only [hf, decodeFrom_eq _ 0 0 0 (by decide) rfl] at h
      obtain ⟨k, hk⟩ := stripPadding_split filtered
      obtain ⟨values, hvalues⟩ := values_of_decodeUnbounded h
      rw [decodeUnbounded_octets hvalues] at h
      exact ⟨stripPadding filtered, k, values, (base64Filter_iff.1 hf).1.trans hk, hvalues, Except.ok.inj h⟩
  · rintro ⟨body, k, values, hdrop, hvalues, rfl⟩
    have hf : base64Filter text = .ok (body ++ List.replicate k '=') := by
      refine base64Filter_iff.2 ⟨hdrop, fun c hc => ?_⟩
      rcases List.mem_append.1 hc with hc | hc
      · exact Or.inr (hvalues.forall_isSome c hc)
      · exact Or.inl (List.eq_of_mem_replicate hc)
    rw [base64Decode, hf]
    simp only [stripPadding_append hvalues.forall_ne_pad, decodeFrom_eq _ 0 0 0 (by decide) rfl]
    exact decodeUnbounded_octets hvalues 0

theorem reads_kTable (values : List Nat) (hlt : ∀ v ∈ values, v < 64) :
    Reads (values.map fun v => kTable.getD v '\x00') values := by
  induction values with
  | nil => exact .nil
  | cons v values ih =>
    have hv := writes_kTable (hlt v List.mem_cons_self)
    exact .cons (writesEither_iff.1 (Or.inl hv)) (ih fun w hw => hlt w (List.mem_cons_of_mem _ hw))

/-- **The round trip**, for byte strings of any length. -/
theorem base64Decode_encode (bytes : Bytes) : base64Decode (base64Encode bytes) = .ok bytes := by
  have hreads := reads_kTable (sextets bytes) (Rfc4648.sextets_lt bytes)
  refine base64Decode_iff.2 ⟨_, padding (sextets bytes).length, sextets bytes, ?_, hreads, Rfc4648.octets_sextets bytes⟩
  rw [base64Encode_eq, dropBlanks, List.filter_eq_self]
  intro c hc
  rcases List.mem_append.1 hc with hc | hc
  · rw [not_blank_of_value (Or.inr (hreads.forall_isSome c hc))]
    rfl
  · rw [not_blank_of_value (Or.inl (List.eq_of_mem_replicate hc))]
    rfl

end PubSub
end Graftcode
