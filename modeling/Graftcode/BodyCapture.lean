import Graftcode.Cpp
/-!
# BodyCapture — the JSON text of a command, cut at a budget of characters

`BodyCapture` of the Python, Java and .NET instrumentation, one algorithm in three languages, and `bodyCapture.js`, which
writes its leaves in its own way.  A string is its code units: code points in Python, UTF-16 units in the other three.
`LogsRedactor` and the conversions of names, numbers and objects to strings are outside.
-/
namespace Graftcode
namespace BodyCapture

/-- A string as its code units. -/
abbrev Units := List Nat

/-- The units of an ASCII literal. -/
def units (text : String) : Units := text.toList.map Char.toNat

/-- What a payload may hold besides null and commands. -/
inductive Leaf where
  | text (value : Units)
  | boolean (flag : Bool)
  -- as the language prints it
  | number (finite : Bool) (printed : Units)
  | bytes (length : Nat)
  -- any other object, as its conversion to a string; that of Java and .NET may yield null
  | other (formatted : Option Units)

inductive Item where
  | null
  | leaf (leaf : Leaf)
  | command (runtimeName commandType : Units) (payload : List Item)

/-- `LogsRedactor`; `Value` is what `redactValue` takes and returns, a string that may be null or a string. -/
structure LogsRedactor (Value : Type) where
  placeholder : Units
  isSensitiveKey : Units → Bool
  redactValue : Value → Value
  redactBody : Units → Option Units

/-- The builder, and the truncation flag. -/
structure Writer where
  out : Units := []
  truncated : Bool := false

namespace Writer

def append (w : Writer) (text : Units) : Writer := { w with out := w.out ++ text }

def length (w : Writer) : Nat := w.out.length

def truncate (w : Writer) : Writer := { w with truncated := true }

def separate (w : Writer) (hasContent : Bool) : Writer := if hasContent then w.append (units ",") else w

@[simp] theorem out_append (w : Writer) (text : Units) : (w.append text).out = w.out ++ text := rfl

@[simp] theorem out_truncate (w : Writer) : w.truncate.out = w.out := rfl

@[simp] theorem length_append (w : Writer) (text : Units) : (w.append text).length = w.length + text.length :=
  List.length_append

@[simp] theorem length_truncate (w : Writer) : w.truncate.length = w.length := rfl

end Writer

def truncationMarker : Units := units "\"__truncated__\""

def maxDepth : Nat := 24

def closingCostPerLevel : Nat := 18

def scalarReserve : Nat := 32

/-- `max(0, budget - (depth + 1) * CLOSING_COST_PER_LEVEL - SCALAR_RESERVE)`. -/
def localBudget (budget : Int) (depth : Nat) : Nat :=
  (budget - (depth + 1) * closingCostPerLevel - scalarReserve).toNat

/-! ## Commands -/

/-- What sets one renderer apart: the local budget of a command at a depth, the names it holds for sensitive, and how it
writes a leaf. -/
structure Renderer where
  room : (depth : Nat) → Nat
  isSensitiveKey : Units → Bool
  writeLeaf : (localBudget : Nat) → (forceRedact : Bool) → Leaf → Writer → Writer × Bool

def isKey (isSensitiveKey : Units → Bool) : Item → Bool
  | .leaf (.text value) => isSensitiveKey value
  | _                   => false

def header (runtimeName commandType : Units) : Units :=
  units "\x7b\"runtime\":\"" ++ runtimeName ++ units "\",\"type\":\"" ++ commandType ++ units "\",\"payload\":["

/-- The end of `writeCommand`. -/
def close (withinBudget hasContent : Bool) (w : Writer) : Writer :=
  if withinBudget then w.append (units "]\x7d")
  else (w.append ((if hasContent then units "," else []) ++ truncationMarker)).append (units "]\x7d")

mutual

/-- `writeValue`; on a command it is `writeCommand`. -/
def writeValue (r : Renderer) (depth localBudget : Nat) (forceRedact : Bool) : Item → Writer → Writer × Bool
  | .null, w                                     => (w.append (units "null"), true)
  | .leaf leaf, w                                =>
    if maxDepth ≤ depth then (w.truncate.append truncationMarker, true)
    else r.writeLeaf localBudget forceRedact leaf w
  | .command runtimeName commandType payload, w =>
    if maxDepth ≤ depth then (w.truncate.append truncationMarker, true)
    else
      let written := writePayload r depth false false payload (w.append (header runtimeName commandType))
      (close written.2.1 written.2.2 written.1, written.2.1)

/-- The loop of `writeCommand`: the writer, `withinBudget` and `hasContent` after it. -/
def writePayload (r : Renderer) (depth : Nat) : (followsSensitiveKey hasContent : Bool) → List Item → Writer →
    Writer × Bool × Bool
  | _, hasContent, [], w                                  => (w, true, hasContent)
  | followsSensitiveKey, hasContent, item :: rest, w =>
    if r.room depth ≤ w.length then (w.truncate, false, hasContent)
    else
      let written := writeValue r (depth + 1) (r.room depth) followsSensitiveKey item (w.separate hasContent)
      if written.2 then writePayload r depth (isKey r.isSensitiveKey item) true rest written.1
      else (written.1, false, true)

end

def writeCommand (r : Renderer) (depth : Nat) (runtimeName commandType : Units) (payload : List Item) (w : Writer) :
    Writer × Bool :=
  let written := writePayload r depth false false payload (w.append (header runtimeName commandType))
  (close written.2.1 written.2.2 written.1, written.2.1)

theorem writeValue_command (r : Renderer) {depth : Nat} (hd : depth < maxDepth) (localBudget : Nat) (forceRedact : Bool)
    (runtimeName commandType : Units) (payload : List Item) (w : Writer) :
    writeValue r depth localBudget forceRedact (.command runtimeName commandType payload) w =
      writeCommand r depth runtimeName commandType payload w := by
  rw [writeValue, if_neg (Nat.not_le.2 hd)]
  rfl

/-- The text before redaction. -/
def rendered (r : Renderer) (runtimeName commandType : Units) (payload : List Item) : Writer :=
  (writeCommand r 0 runtimeName commandType payload {}).1

structure Result where
  body : Option Units
  truncated : Bool

def resultOf (redactBody : Units → Option Units) (w : Writer) : Result := ⟨redactBody w.out, w.truncated⟩

/-! ## Python, Java and .NET -/

def hexDigit (n : Nat) : Nat := if n < 10 then 48 + n else 87 + n

/-- `\uXXXX`. -/
def unicodeEscape (unit : Nat) : Units :=
  units "\\u" ++ [hexDigit (unit / 4096 % 16), hexDigit (unit / 256 % 16), hexDigit (unit / 16 % 16),
    hexDigit (unit % 16)]

def escapeUnit (unit : Nat) : Units :=
  if unit = '"'.toNat then units "\\\""
  else if unit = '\\'.toNat then units "\\\\"
  else if unit = '\n'.toNat then units "\\n"
  else if unit = '\r'.toNat then units "\\r"
  else if unit = '\t'.toNat then units "\\t"
  else if unit < 0x20 then unicodeEscape unit
  else [unit]

/-- The loop of `writeString`, and its closing quote. -/
def writeCharacters (localBudget : Nat) : Units → Writer → Writer × Bool
  | [], w           => (w.append (units "\""), true)
  | unit :: rest, w =>
    if localBudget ≤ w.length then (w.truncate.append (units "\""), false)
    else writeCharacters localBudget rest (w.append (escapeUnit unit))

def writeString (localBudget : Nat) (value : Option Units) (w : Writer) : Writer × Bool :=
  match value with
  | none       => ((w.append (units "\"")).append (units "\""), true)
  | some value => writeCharacters localBudget value (w.append (units "\""))

def bytesText (length : Nat) : Units :=
  units "\"[bytes:" ++ (Nat.toDigits 10 length).map Char.toNat ++ units "]\""

def writeLeaf (redactor : LogsRedactor (Option Units)) (localBudget : Nat) (forceRedact : Bool) :
    Leaf → Writer → Writer × Bool
  | .text value, w       => writeString localBudget
      (if forceRedact then some redactor.placeholder else redactor.redactValue (some value)) w
  | .boolean flag, w     => (w.append (units (if flag then "true" else "false")), true)
  | .number _ printed, w => (w.append printed, true)
  | .bytes length, w     => (w.append (bytesText length), true)
  | .other formatted, w  => writeString localBudget
      (if forceRedact then some redactor.placeholder else redactor.redactValue formatted) w

/-- Python; without a limit the local budget is 2³⁰. -/
def python (redactor : LogsRedactor (Option Units)) (maxCharacters : Option Int) : Renderer where
  room depth := match maxCharacters with
    | none        => 2 ^ 30
    | some budget => localBudget budget depth
  isSensitiveKey := redactor.isSensitiveKey
  writeLeaf := writeLeaf redactor

/-- Java and .NET. -/
def jvm (redactor : LogsRedactor (Option Units)) (maxCharacters : Int) : Renderer where
  room := localBudget maxCharacters
  isSensitiveKey := redactor.isSensitiveKey
  writeLeaf := writeLeaf redactor

def renderPython (redactor : LogsRedactor (Option Units)) (maxCharacters : Option Int) (runtimeName commandType : Units)
    (payload : List Item) : Writer :=
  rendered (python redactor maxCharacters) runtimeName commandType payload

/-- `new StringBuilder(Math.min(maxCharacters, 1024))` throws on a negative capacity. -/
def renderJava (redactor : LogsRedactor (Option Units)) (maxCharacters : Int) (runtimeName commandType : Units)
    (payload : List Item) : Option Writer :=
  if maxCharacters < 0 then none else some (rendered (jvm redactor maxCharacters) runtimeName commandType payload)

/-- `new StringBuilder(Math.Min(maxCharacters, 1024))` throws on a negative capacity. -/
def renderDotnet (redactor : LogsRedactor (Option Units)) (maxCharacters : Int) (runtimeName commandType : Units)
    (payload : List Item) : Option Writer :=
  if maxCharacters < 0 then none else some (rendered (jvm redactor maxCharacters) runtimeName commandType payload)

/-! ## Node -/

def isHighSurrogate (unit : Nat) : Bool := decide (0xD800 ≤ unit) && decide (unit ≤ 0xDBFF)

def isLowSurrogate (unit : Nat) : Bool := decide (0xDC00 ≤ unit) && decide (unit ≤ 0xDFFF)

def stringifyUnit (unit : Nat) : Units :=
  if unit = 0x8 then units "\\b"
  else if unit = 0xC then units "\\f"
  else if isHighSurrogate unit || isLowSurrogate unit then unicodeEscape unit
  else escapeUnit unit

/-- The units of a string, as `JSON.stringify` writes them: a surrogate pair stays. -/
def stringifyBody : Units → Units
  | []                   => []
  | [unit]               => stringifyUnit unit
  | unit :: next :: rest =>
    if isHighSurrogate unit && isLowSurrogate next then unit :: next :: stringifyBody rest
    else stringifyUnit unit ++ stringifyBody (next :: rest)

/-- `JSON.stringify` of a string. -/
def stringify (value : Units) : Units := units "\"" ++ stringifyBody value ++ units "\""

def writeStringified (localBudget : Nat) (value : Units) (w : Writer) : Writer × Bool :=
  let encoded := stringify value
  if w.length + encoded.length ≤ localBudget then (w.append encoded, true)
  else (w.truncate.append (stringify (value.take (localBudget - w.length - 2))), false)

/-- The rest of `writeValue`; a JavaScript conversion always yields a string. -/
def writeLeafNode (redactor : LogsRedactor Units) (localBudget : Nat) (forceRedact : Bool) (leaf : Leaf) (w : Writer) :
    Writer × Bool :=
  if forceRedact then writeStringified localBudget redactor.placeholder w
  else match leaf with
  | .text value            => writeStringified localBudget (redactor.redactValue value) w
  | .boolean flag          => (w.append (units (if flag then "true" else "false")), true)
  | .number finite printed => (w.append (if finite then printed else units "\"" ++ printed ++ units "\""), true)
  | .bytes length          => (w.append (bytesText length), true)
  | .other formatted       => writeStringified localBudget (redactor.redactValue (formatted.getD [])) w

def node (redactor : LogsRedactor Units) (maxLength : Int) : Renderer where
  room := localBudget maxLength
  isSensitiveKey := redactor.isSensitiveKey
  writeLeaf := writeLeafNode redactor

def renderNode (redactor : LogsRedactor Units) (maxLength : Int) (runtimeName commandType : Units)
    (payload : List Item) : Writer :=
  rendered (node redactor maxLength) runtimeName commandType payload

end BodyCapture
end Graftcode
