import Mathlib.Algebra.Group.Int.Defs
import Mathlib.Algebra.Group.Nat.Defs
import Mathlib.Data.List.TakeWhile
/-!
# Cpp — the C++ values every plugin passes around

A `std::string` is the list of its `char`s, a `std::vector<unsigned char>` the list of its bytes.  A callback writes its
response through `writeResponse`, the same lambda in every server.
-/
namespace Graftcode

/-- `std::string`; each `Char` is one `char`. -/
abbrev Text := List Char

abbrev Byte := UInt8

/-- `std::vector<unsigned char>`. -/
abbrev Bytes := List Byte

/-- What a C++ frame can be left by: `std::exception` or a subclass, with its text, or anything else. -/
inductive Exn where
  | std (what : Text)
  | unknown
  deriving DecidableEq, Repr

/-- `std::string(bytes.begin(), bytes.end())`. -/
def textOf (bytes : Bytes) : Text := bytes.map fun b => Char.ofNat b.toNat

/-- The `char`s of a string as the bytes they are. -/
def bytesOf (text : Text) : Bytes := text.map fun c => UInt8.ofNat c.toNat

/-- A `std::string` made from a `const char*`: it ends at the first NUL. -/
def cString (text : Text) : Text := text.takeWhile (· != '\x00')

/-- `e.what()` read into a `std::string`; `catch (...)` has a text of its own. -/
def Exn.message (unknownText : Text) : Exn → Text
  | std what => cString what
  | unknown  => unknownText

theorem toNat_charOf (b : Byte) : (Char.ofNat b.toNat).toNat = b.toNat := by
  have hb := b.toNat_lt
  rw [Char.ofNat, dif_pos (Or.inl (by omega))]
  rfl

@[simp] theorem bytesOf_textOf (bytes : Bytes) : bytesOf (textOf bytes) = bytes := by
  simp [bytesOf, textOf, Function.comp_def, toNat_charOf]

@[simp] theorem length_textOf (bytes : Bytes) : (textOf bytes).length = bytes.length := List.length_map ..

theorem nul_mem_textOf (bytes : Bytes) : '\x00' ∈ textOf bytes ↔ (0 : Byte) ∈ bytes := by
  have h : ∀ b : Byte, Char.ofNat b.toNat = '\x00' ↔ b = 0 := by
    intro b
    constructor
    · intro hb
      have := toNat_charOf b
      rw [hb] at this
      exact UInt8.toNat_inj.1 this.symm
    · rintro rfl
      rfl
  simp [textOf, h]

theorem cString_eq_self (text : Text) : cString text = text ↔ '\x00' ∉ text := by
  rw [cString, List.takeWhile_eq_self_iff]
  constructor
  · intro h hm
    simpa using h _ hm
  · intro h c hc
    simp only [bne_iff_ne, ne_eq]
    rintro rfl
    exact h hc

/-- One call of `writeResponse(context, data, size)`: null data or zero size clears the vector. -/
def writeResponse (_output : Bytes) (data : Option Bytes) : Bytes :=
  match data with
  | none       => []
  | some bytes => bytes

/-- The response vector after a callback's calls of `writeResponse`, in order. -/
def responseOf (writes : List (Option Bytes)) : Bytes := writes.foldl writeResponse []

theorem bind_eq_ok {ε α β : Type} {x : Except ε α} {f : α → Except ε β} {b : β} :
    (x >>= f) = .ok b ↔ ∃ a, x = .ok a ∧ f a = .ok b := by
  cases x with
  | ok a    => exact ⟨fun h => ⟨a, rfl, h⟩, fun ⟨_, ha, h⟩ => Except.ok.inj ha ▸ h⟩
  | error e => exact ⟨fun h => (by cases h), fun ⟨_, ha, _⟩ => (by cases ha)⟩

/-- A check before the rest. -/
theorem check_eq_ok {ε β : Type} {x : Except ε Unit} {f : Unit → Except ε β} {b : β} :
    (x >>= f) = .ok b ↔ x = .ok () ∧ f () = .ok b :=
  bind_eq_ok.trans ⟨fun ⟨(), h⟩ => h, fun h => ⟨(), h⟩⟩

end Graftcode
