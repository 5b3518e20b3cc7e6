import Graftcode.Json
/-!
# PluginSettings — how the plugins read their settings from a JSON object

`ReadString`, `ReadPositiveUint` and `ReadBool`, which the SQS and Pub/Sub plugins share but for the name in their
errors, and the 64-bit integers of `nlohmann::json`: an unsigned one beyond the signed range reads as a negative one.
-/
namespace Graftcode
namespace PluginSettings

/-- A JSON integer that is not a floating-point number to the parser, signed or unsigned. -/
def IsInteger64 (n : Int) : Prop := -2 ^ 63 ≤ n ∧ n < 2 ^ 64

/-- `get<std::int64_t>()` of an integer. -/
def getInt64 (n : Int) : Int := Int.bmod n (2 ^ 64)

/-- `get<int>()` of an integer. -/
def getInt (n : Int) : Int := Int.bmod n (2 ^ 32)

def maxUint32 : Int := 2 ^ 32 - 1

theorem getInt64_eq {n : Int} (hn : IsInteger64 n) : getInt64 n = if n < 2 ^ 63 then n else n - 2 ^ 64 := by
  obtain ⟨hlow, hhigh⟩ := hn
  unfold getInt64
  rw [Int.bmod_def]
  split <;> split <;> omega

/-- The test for a positive value of 32 bits lets exactly those through, as they are. -/
theorem getInt64_positive_iff {n : Int} (hn : IsInteger64 n) :
    (¬ (getInt64 n ≤ 0 ∨ maxUint32 < getInt64 n) ↔ 0 < n ∧ n ≤ maxUint32) ∧
      (0 < n → n ≤ maxUint32 → getInt64 n = n) := by
  have heq := getInt64_eq hn
  obtain ⟨hlow, hhigh⟩ := hn
  unfold maxUint32
  split at heq <;> constructor <;> omega

section Read

variable (plugin : Text) (node : Json) (key : Text)

def readString (target : Text) : Text := (node.findString? key).getD target

def readPositiveUint (target : Nat) : Except Text Nat :=
  match node.find? key with
  | none             => .ok target
  | some (.number n) =>
    let parsed := getInt64 n
    if parsed ≤ 0 ∨ maxUint32 < parsed then .error (plugin ++ " plugin: invalid value for '".toList ++ key ++ "'".toList)
    else .ok parsed.toNat
  | some _           => .error (plugin ++ " plugin: '".toList ++ key ++ "' must be an integer".toList)

def readBool (target : Bool) : Except Text Bool :=
  match node.find? key with
  | none           => .ok target
  | some (.bool b) => .ok b
  | some _         => .error (plugin ++ " plugin: '".toList ++ key ++ "' must be a boolean".toList)

end Read

/-! ## What is read -/

/-- The value of a key, when there is one, is an integer from `low` to `high`. -/
def InRange (low high : Nat) (given : Option Json) : Prop :=
  ∀ value, given = some value → ∃ n : Int, value = .number n ∧ low ≤ n ∧ n ≤ high

/-- The integer that is given, or the default. -/
def numberOr (default : Nat) : Option Json → Nat
  | some (.number n) => n.toNat
  | _                => default

/-- The boolean that is given, or the default. -/
def boolOr (default : Bool) : Option Json → Bool
  | some (.bool b) => b
  | _              => default

/-- The value of a key, when there is one, is a boolean. -/
def IsSwitch (given : Option Json) : Prop := ∀ value, given = some value → ∃ b, value = .bool b

/-- The integers of an object are those a parser makes. -/
def Integers64 (node : Json) : Prop := ∀ key n, node.find? key = some (.number n) → IsInteger64 n

section Read

variable {plugin : Text} {node : Json} {key : Text}

theorem readPositiveUint_number {n : Int} {target value : Nat} (hn : IsInteger64 n)
    (hfind : node.find? key = some (.number n)) :
    readPositiveUint plugin node key target = .ok value ↔ n = value ∧ 0 < n ∧ n ≤ maxUint32 := by
  obtain ⟨hpositive, hsame⟩ := getInt64_positive_iff hn
  unfold readPositiveUint
  simp only [hfind]
  by_cases hrange : getInt64 n ≤ 0 ∨ maxUint32 < getInt64 n
  · rw [if_pos hrange]
    exact iff_of_false nofun fun h => hpositive.2 h.2 hrange
  · obtain ⟨hpos, hmax⟩ := hpositive.1 hrange
    rw [if_neg hrange, hsame hpos hmax, Except.ok.injEq]
    omega

/-- **What is read and passes a check of its range** is the integer that is given and lies in it, or the default. -/
theorem readPositiveUint_inRange (hnode : Integers64 node) {low high default value : Nat} (hlow : 1 ≤ low)
    (hhigh : high ≤ maxUint32) (hdefault : low ≤ default ∧ default ≤ high) :
    (readPositiveUint plugin node key default = .ok value ∧ low ≤ value ∧ value ≤ high) ↔
      InRange low high (node.find? key) ∧ value = numberOr default (node.find? key) := by
  match hfind : node.find? key with
  | none =>
    have hread : readPositiveUint plugin node key default = .ok default := by
      unfold readPositiveUint
      rw [hfind]
    rw [hread, Except.ok.injEq]
    constructor
    · rintro ⟨rfl, -⟩
      exact ⟨nofun, rfl⟩
    · rintro ⟨-, rfl⟩
      exact ⟨rfl, hdefault⟩
  | some (.number n) =>
    rw [readPositiveUint_number (hnode key n hfind) hfind]
    constructor
    · rintro ⟨⟨rfl, hpos, hmax⟩, hrange⟩
      refine ⟨fun given hgiven => ?_, rfl⟩
      cases hgiven
      exact ⟨_, rfl, by omega, by omega⟩
    · rintro ⟨hrange, rfl⟩
      obtain ⟨m, hm, hmlow, hmhigh⟩ := hrange _ rfl
      cases hm
      simp only [numberOr]
      omega
  | some .null | some (.bool _) | some (.string _) | some (.array _) | some (.object _) =>
    unfold readPositiveUint
    rw [hfind]
    refine iff_of_false (fun h => nomatch h.1) fun h => ?_
    obtain ⟨n, hn, -⟩ := h.1 _ rfl
    cases hn

theorem readBool_ok {default value : Bool} :
    readBool plugin node key default = .ok value ↔
      IsSwitch (node.find? key) ∧ value = boolOr default (node.find? key) := by
  unfold readBool
  match node.find? key with
  | none =>
    have hswitch : IsSwitch none := nofun
    rw [and_iff_right hswitch, Except.ok.injEq]
    exact eq_comm
  | some (.bool b) =>
    have hswitch : IsSwitch (some (.bool b)) := fun _ hgiven => ⟨b, (Option.some.inj hgiven).symm⟩
    rw [and_iff_right hswitch, Except.ok.injEq]
    exact eq_comm
  | some .null | some (.number _) | some (.string _) | some (.array _) | some (.object _) =>
    refine iff_of_false nofun fun h => ?_
    obtain ⟨b, hb⟩ := h.1 _ rfl
    cases hb

end Read

end PluginSettings
end Graftcode
