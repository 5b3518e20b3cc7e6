import Mathlib.Data.List.Basic
import Mathlib.Data.List.Forall2
import Mathlib.Data.Nat.Basic
import Graftcode.Trimming
/-!
# Rfc4648 — the Base64 of RFC 4648, as sextets and octets

An encoding is a list of six-bit values, written in an alphabet and filled up with `=` to a multiple of four characters.
`sextets` is what an encoder writes and `octets` what a decoder can read, which drops the bits that fill no octet; they
are inverse to each other exactly on the lists with no such bits (`sextets_octets_iff`).
-/
namespace Graftcode
namespace Rfc4648

/-- The six-bit groups of a byte string; the last is filled up with zero bits. -/
def sextets : List UInt8 → List Nat
  | a :: b :: c :: rest =>
    a.toNat / 4 :: (a.toNat % 4 * 16 + b.toNat / 16) :: (b.toNat % 16 * 4 + c.toNat / 64) :: c.toNat % 64 :: sextets rest
  | [a, b] => [a.toNat / 4, a.toNat % 4 * 16 + b.toNat / 16, b.toNat % 16 * 4]
  | [a]    => [a.toNat / 4, a.toNat % 4 * 16]
  | []     => []

/-- The octets that six-bit groups fill. -/
def octets : List Nat → List UInt8
  | v :: w :: x :: y :: rest =>
    UInt8.ofNat (v * 4 + w / 16) :: UInt8.ofNat (w % 16 * 16 + x / 4) :: UInt8.ofNat (x % 4 * 64 + y) :: octets rest
  | [v, w, x] => [UInt8.ofNat (v * 4 + w / 16), UInt8.ofNat (w % 16 * 16 + x / 4)]
  | [v, w]    => [UInt8.ofNat (v * 4 + w / 16)]
  | [_]       => []
  | []        => []

/-- The bits of the last group that fill no octet, when the number of groups is one an encoder writes. -/
def spare : List Nat → Nat
  | _ :: _ :: _ :: _ :: rest => spare rest
  | [_, _, x] => x % 4
  | [_, w]    => w % 16
  | _         => 0

/-- The number of `=` that fill `n` characters up to a multiple of four. -/
def padding (n : Nat) : Nat := (4 - n % 4) % 4

theorem sextets_lt : ∀ (bytes : List UInt8), ∀ v ∈ sextets bytes, v < 64
  | a :: b :: c :: rest, v, hv => by
    have ha := a.toNat_lt
    have hb := b.toNat_lt
    have hc := c.toNat_lt
    simp only [sextets, List.mem_cons] at hv
    rcases hv with rfl | rfl | rfl | rfl | hv
    · omega
    · omega
    · omega
    · omega
    · exact sextets_lt rest v hv
  | [a, b], v, hv => by
    have ha := a.toNat_lt
    have hb := b.toNat_lt
    simp only [sextets, List.mem_cons, List.not_mem_nil, or_false] at hv
    rcases hv with rfl | rfl | rfl <;> omega
  | [a], v, hv => by
    have ha := a.toNat_lt
    simp only [sextets, List.mem_cons, List.not_mem_nil, or_false] at hv
    rcases hv with rfl | rfl <;> omega
  | [], v, hv => by cases hv

theorem toNat_eq_iff {a : UInt8} {n : Nat} (hn : n < 256) : UInt8.ofNat n = a ↔ n = a.toNat := by
  have ha := a.toNat_lt
  rw [← UInt8.toNat_inj, UInt8.toNat_ofNat']
  omega

theorem octets_sextets : ∀ (bytes : List UInt8), octets (sextets bytes) = bytes
  | a :: b :: c :: rest => by
    have ha := a.toNat_lt
    have hb := b.toNat_lt
    have hc := c.toNat_lt
    simp only [sextets, octets, octets_sextets rest, List.cons.injEq, and_true]
    refine ⟨?_, ?_, ?_⟩
    · exact (toNat_eq_iff (by omega)).2 (by omega)
    · exact (toNat_eq_iff (by omega)).2 (by omega)
    · exact (toNat_eq_iff (by omega)).2 (by omega)
  | [a, b] => by
    have ha := a.toNat_lt
    have hb := b.toNat_lt
    simp only [sextets, octets, List.cons.injEq, and_true]
    exact ⟨(toNat_eq_iff (by omega)).2 (by omega), (toNat_eq_iff (by omega)).2 (by omega)⟩
  | [a] => by
    have ha := a.toNat_lt
    simp only [sextets, octets, List.cons.injEq, and_true]
    exact (toNat_eq_iff (by omega)).2 (by omega)
  | [] => rfl

/-- **What a decoder reads is what was encoded, exactly when no bit of it was dropped.** -/
theorem sextets_octets_iff : ∀ (values : List Nat), (∀ v ∈ values, v < 64) →
    (sextets (octets values) = values ↔ values.length % 4 ≠ 1 ∧ spare values = 0)
  | v :: w :: x :: y :: rest, hlt => by
    have hv : v < 64 := hlt v (by simp)
    have hw : w < 64 := hlt w (by simp)
    have hx : x < 64 := hlt x (by simp)
    have hy : y < 64 := hlt y (by simp)
    have ih := sextets_octets_iff rest fun u hu => hlt u (by simp [hu])
    have hlen : (v :: w :: x :: y :: rest).length % 4 = rest.length % 4 := by
      simp only [List.length_cons]
      omega
    rw [hlen, spare, ← ih]
    simp only [octets, sextets, List.cons.injEq, UInt8.toNat_ofNat']
    constructor
    · exact fun h => h.2.2.2.2
    · exact fun h => ⟨by omega, by omega, by omega, by omega, h⟩
  | [v, w, x], hlt => by
    have hv : v < 64 := hlt v (by simp)
    have hw : w < 64 := hlt w (by simp)
    have hx : x < 64 := hlt x (by simp)
    simp only [octets, sextets, List.cons.injEq, UInt8.toNat_ofNat', and_true, spare, List.length_cons, List.length_nil]
    omega
  | [v, w], hlt => by
    have hv : v < 64 := hlt v (by simp)
    have hw : w < 64 := hlt w (by simp)
    simp only [octets, sextets, List.cons.injEq, UInt8.toNat_ofNat', and_true, spare, List.length_cons, List.length_nil]
    omega
  | [v], _ => by simp [octets, sextets]
  | [], _  => by simp [octets, sextets, spare]

/-- The groups with the bits that fill no octet set to zero. -/
def clearSpare : List Nat → List Nat
  | v :: w :: x :: y :: rest => v :: w :: x :: y :: clearSpare rest
  | [v, w, x] => [v, w, x / 4 * 4]
  | [v, w]    => [v, w / 16 * 16]
  | values    => values

/-- A decoder that drops the spare bits reads what would be encoded without them. -/
theorem sextets_octets : ∀ {values : List Nat}, (∀ v ∈ values, v < 64) → values.length % 4 ≠ 1 →
    sextets (octets values) = clearSpare values
  | v :: w :: x :: y :: rest, hlt, hlen => by
    have hv : v < 64 := hlt v (by simp)
    have hw : w < 64 := hlt w (by simp)
    have hx : x < 64 := hlt x (by simp)
    have hy : y < 64 := hlt y (by simp)
    have hrest : rest.length % 4 ≠ 1 := by
      simp only [List.length_cons] at hlen
      omega
    have ih := sextets_octets (fun u hu => hlt u (by simp [hu])) hrest
    simp only [octets, sextets, clearSpare, ih, List.cons.injEq, UInt8.toNat_ofNat', and_true]
    exact ⟨by omega, by omega, by omega, by omega⟩
  | [v, w, x], hlt, _ => by
    have hv : v < 64 := hlt v (by simp)
    have hw : w < 64 := hlt w (by simp)
    have hx : x < 64 := hlt x (by simp)
    simp only [octets, sextets, clearSpare, List.cons.injEq, UInt8.toNat_ofNat', and_true]
    exact ⟨by omega, by omega, by omega⟩
  | [v, w], hlt, _ => by
    have hv : v < 64 := hlt v (by simp)
    have hw : w < 64 := hlt w (by simp)
    simp only [octets, sextets, clearSpare, List.cons.injEq, UInt8.toNat_ofNat', and_true]
    exact ⟨by omega, by omega⟩
  | [v], _, hlen => absurd rfl hlen
  | [], _, _     => rfl

theorem length_clearSpare : ∀ values : List Nat, (clearSpare values).length = values.length
  | v :: w :: x :: y :: rest => by
    simp only [clearSpare, List.length_cons, length_clearSpare rest]
  | [_, _, _] => rfl
  | [_, _]    => rfl
  | [_]       => rfl
  | []        => rfl

theorem length_sextets : ∀ bytes : List UInt8, (sextets bytes).length = (bytes.length * 4 + 2) / 3
  | a :: b :: c :: rest => by
    simp only [sextets, List.length_cons, length_sextets rest]
    omega
  | [_, _] => by simp only [sextets, List.length_cons, List.length_nil]
  | [_]    => by simp only [sextets, List.length_cons, List.length_nil]
  | []     => rfl

theorem length_sextets_ne (bytes : List UInt8) : (sextets bytes).length % 4 ≠ 1 :=
  ((sextets_octets_iff _ (sextets_lt bytes)).1 (by rw [octets_sextets])).1

/-! ## Texts -/

/-- `text` is `bytes` encoded, with no padding or with all of it; `writes c v` says that `c` stands for the value `v`. -/
def Encodes (writes : Char → Nat → Prop) (text : List Char) (bytes : List UInt8) : Prop :=
  ∃ body k, text = body ++ List.replicate k '=' ∧ List.Forall₂ writes body (sextets bytes) ∧
    (k = 0 ∨ k = padding body.length)

def standardTable : List Char :=
  ['A', 'B', 'C', 'D', 'E', 'F', 'G', 'H', 'I', 'J', 'K', 'L', 'M', 'N', 'O', 'P', 'Q', 'R', 'S', 'T', 'U', 'V',
   'W', 'X', 'Y', 'Z', 'a', 'b', 'c', 'd', 'e', 'f', 'g', 'h', 'i', 'j', 'k', 'l', 'm', 'n', 'o', 'p', 'q', 'r',
   's', 't', 'u', 'v', 'w', 'x', 'y', 'z', '0', '1', '2', '3', '4', '5', '6', '7', '8', '9', '+', '/']

def urlSafeTable : List Char :=
  ['A', 'B', 'C', 'D', 'E', 'F', 'G', 'H', 'I', 'J', 'K', 'L', 'M', 'N', 'O', 'P', 'Q', 'R', 'S', 'T', 'U', 'V',
   'W', 'X', 'Y', 'Z', 'a', 'b', 'c', 'd', 'e', 'f', 'g', 'h', 'i', 'j', 'k', 'l', 'm', 'n', 'o', 'p', 'q', 'r',
   's', 't', 'u', 'v', 'w', 'x', 'y', 'z', '0', '1', '2', '3', '4', '5', '6', '7', '8', '9', '-', '_']

/-- The character for `v` in a table. -/
def Writes (table : List Char) (c : Char) (v : Nat) : Prop := table[v]? = some c

theorem exists_writes_iff {table body : List Char} :
    (∃ values, List.Forall₂ (Writes table) body values) ↔ ∀ c ∈ body, c ∈ table := by
  constructor
  · rintro ⟨values, h⟩
    induction h with
    | nil => exact fun c hc => absurd hc List.not_mem_nil
    | cons hv _ ih => exact List.forall_mem_cons.2 ⟨List.mem_of_getElem? hv, ih⟩
  · intro h
    induction body with
    | nil => exact ⟨[], .nil⟩
    | cons c body ih =>
      obtain ⟨hc, hbody⟩ := List.forall_mem_cons.1 h
      obtain ⟨v, hv⟩ := List.mem_iff_getElem?.1 hc
      obtain ⟨values, hvalues⟩ := ih hbody
      exact ⟨v :: values, .cons hv hvalues⟩

theorem writes_lt {table body : List Char} {values : List Nat} (h : List.Forall₂ (Writes table) body values) :
    ∀ v ∈ values, v < table.length := by
  induction h with
  | nil => exact fun v hv => absurd hv List.not_mem_nil
  | cons hv _ ih => exact List.forall_mem_cons.2 ⟨(List.getElem?_eq_some_iff.1 hv).1, ih⟩

/-- The character for `v` in one of the two alphabets. -/
def WritesEither (c : Char) (v : Nat) : Prop := Writes standardTable c v ∨ Writes urlSafeTable c v

/-- `text` is `bytes` encoded with all of the padding, up to the bits of its last character that fill no octet. -/
def EncodesLoosely (writes : Char → Nat → Prop) (text : List Char) (bytes : List UInt8) : Prop :=
  ∃ body values, text = body ++ List.replicate (padding body.length) '=' ∧ List.Forall₂ writes body values ∧
    clearSpare values = sextets bytes

theorem rdropWhile_pad {body : List Char} (hbody : ∀ c ∈ body, c ≠ '=') (k : Nat) :
    (body ++ List.replicate k '=').rdropWhile (· == '=') = body := by
  refine Trimming.rdropWhile_eq_iff.2 ⟨⟨_, rfl, fun c hc => ?_⟩, fun c hc => ?_⟩
  · rw [List.eq_of_mem_replicate hc]
    rfl
  · exact beq_false_of_ne (hbody c (List.mem_of_getLast? hc))

theorem split_unique {body body' : List Char} {k k' : Nat} (hbody : ∀ c ∈ body, c ≠ '=') (hbody' : ∀ c ∈ body', c ≠ '=')
    (h : body ++ List.replicate k '=' = body' ++ List.replicate k' '=') : body = body' ∧ k = k' := by
  have heq := rdropWhile_pad hbody k
  rw [h, rdropWhile_pad hbody' k'] at heq
  subst heq
  have hlen := congrArg List.length (List.append_cancel_left h)
  rw [List.length_replicate, List.length_replicate] at hlen
  exact ⟨rfl, hlen⟩

/-! ## The padded codec -/

section Codec

variable (table : List Char)

def encode (bytes : List UInt8) : List Char :=
  (sextets bytes).map (fun v => table.getD v '=') ++ List.replicate (padding (sextets bytes).length) '='

/-- The characters up to the padding, as their places in the table. -/
def decode (text : List Char) : List UInt8 :=
  octets ((text.rdropWhile (· == '=')).map fun c => table.idxOf c)

theorem length_encode (bytes : List UInt8) : (encode table bytes).length = 4 * ((bytes.length + 2) / 3) := by
  rw [encode, List.length_append, List.length_map, List.length_replicate, length_sextets, padding]
  omega

variable {table}

theorem writes_sextets (hlen : table.length = 64) (bytes : List UInt8) :
    List.Forall₂ (Writes table) ((sextets bytes).map fun v => table.getD v '=') (sextets bytes) := by
  rw [List.forall₂_map_left_iff, List.forall₂_same]
  intro v hv
  have hlt : v < table.length := by
    rw [hlen]
    exact sextets_lt bytes v hv
  rw [Writes, List.getD_eq_getElem?_getD, List.getElem?_eq_getElem hlt]
  rfl

theorem decode_encode (hlen : table.length = 64) (hnodup : table.Nodup) (hpad : '=' ∉ table) (bytes : List UInt8) :
    decode table (encode table bytes) = bytes := by
  have hwrites := writes_sextets hlen bytes
  have hstrip : (encode table bytes).rdropWhile (· == '=') = (sextets bytes).map fun v => table.getD v '=' := by
    refine rdropWhile_pad (fun c hc h => ?_) _
    exact hpad (h ▸ exists_writes_iff.1 ⟨_, hwrites⟩ c hc)
  have hplaces : ((sextets bytes).map fun v => table.getD v '=').map (fun c => table.idxOf c) = sextets bytes := by
    rw [List.map_map]
    refine (List.map_congr_left fun v hv => ?_).trans (List.map_id _)
    have hlt : v < table.length := by
      rw [hlen]
      exact sextets_lt bytes v hv
    show table.idxOf (table.getD v '=') = v
    rw [List.getD_eq_getElem?_getD, List.getElem?_eq_getElem hlt, Option.getD_some, hnodup.idxOf_getElem v hlt]
  rw [decode, hstrip, hplaces, octets_sextets]

end Codec

end Rfc4648
end Graftcode
