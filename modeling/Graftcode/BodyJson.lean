import Graftcode.BodyCapture
import Graftcode.JsonUnits
/-!
# BodyJson — when what is rendered is JSON

The text a renderer has written is one JSON value wherever the budget or the depth has cut it, if the numbers in it are
JSON: a leaf writes one value, the loop of a command writes values with commas between them, and the end of a command
closes what the header opened.  A number is written as the language prints it, and that is not JSON of every number.
-/
namespace Graftcode
namespace BodyCapture

open Delimited (joined_snoc)

/-! ## Names and numbers -/

mutual

/-- Every name of the tree is plain. -/
def Orderly : Item → Prop
  | .null                                    => True
  | .leaf _                                  => True
  | .command runtimeName commandType payload => PlainName runtimeName ∧ PlainName commandType ∧ AllOrderly payload

def AllOrderly : List Item → Prop
  | []           => True
  | item :: rest => Orderly item ∧ AllOrderly rest

end

/-- What a number is written as: in Python, Java and .NET as it is printed, forced or not. -/
def numberOf (_forceRedact : Bool) : Leaf → Option Units
  | .number _ printed => some printed
  | _                 => none

def numberOfNode (forceRedact : Bool) : Leaf → Option Units
  | .number finite printed => if forceRedact then none else some (if finite then printed else quoted printed)
  | _                      => none

section Numbers

variable (r : Renderer) (number : (forceRedact : Bool) → Leaf → Option Units)

mutual

/-- The numbers that are written of an item, those that the budget and the depth leave. -/
def valueNumbers (depth : Nat) (forceRedact : Bool) : Item → Writer → List Units
  | .null, _                                 => []
  | .leaf leaf, _                            => if maxDepth ≤ depth then [] else (number forceRedact leaf).toList
  | .command runtimeName commandType payload, w =>
    if maxDepth ≤ depth then [] else payloadNumbers depth false false payload (w.append (header runtimeName commandType))

def payloadNumbers (depth : Nat) : (followsSensitiveKey hasContent : Bool) → List Item → Writer → List Units
  | _, _, [], _                                       => []
  | followsSensitiveKey, hasContent, item :: rest, w =>
    if r.room depth ≤ w.length then []
    else
      let written := writeValue r (depth + 1) (r.room depth) followsSensitiveKey item (w.separate hasContent)
      valueNumbers (depth + 1) followsSensitiveKey item (w.separate hasContent) ++
        if written.2 then payloadNumbers depth (isKey r.isSensitiveKey item) true rest written.1 else []

end

def writtenNumbers (runtimeName commandType : Units) (payload : List Item) : List Units :=
  payloadNumbers r number 0 false false payload (({} : Writer).append (header runtimeName commandType))

end Numbers

/-! ## Strings -/

def jsonDigit (n : Fin 16) : JsonText.HexDigit :=
  ⟨Char.ofNat (hexDigit n), by revert n; decide⟩

theorem toNat_jsonDigit : ∀ n : Fin 16, (jsonDigit n).1.toNat = hexDigit n := by decide

theorem isStringBody_unicodeEscape (unit : Nat) : IsStringBody (unicodeEscape unit) := by
  have h := IsStringBody.unicode (jsonDigit ⟨unit / 4096 % 16, by omega⟩) (jsonDigit ⟨unit / 256 % 16, by omega⟩)
    (jsonDigit ⟨unit / 16 % 16, by omega⟩) (jsonDigit ⟨unit % 16, by omega⟩) .nil
  simp only [toNat_jsonDigit] at h
  exact h

theorem isStringBody_escapeUnit (unit : Nat) : IsStringBody (escapeUnit unit) := by
  unfold escapeUnit
  split
  · exact .escape .quote .nil
  split
  · exact .escape .backslash .nil
  split
  · exact .escape .lineFeed .nil
  split
  · exact .escape .carriageReturn .nil
  split
  · exact .escape .tab .nil
  split
  · exact isStringBody_unicodeEscape unit
  · rename_i hq hb _ _ _ hl
    exact .plain ⟨by omega, hq, hb⟩ .nil

theorem isStringBody_stringifyUnit (unit : Nat) : IsStringBody (stringifyUnit unit) := by
  unfold stringifyUnit
  split
  · exact .escape .backspace .nil
  split
  · exact .escape .formFeed .nil
  split
  · exact isStringBody_unicodeEscape unit
  · exact isStringBody_escapeUnit unit

theorem plainUnit_of_surrogate {unit : Nat} (h : isHighSurrogate unit = true ∨ isLowSurrogate unit = true) :
    PlainUnit unit := by
  have hq : '"'.toNat = 34 := rfl
  have hb : '\\'.toNat = 92 := rfl
  unfold PlainUnit
  rw [hq, hb]
  simp only [isHighSurrogate, isLowSurrogate, Bool.and_eq_true, decide_eq_true_eq] at h
  omega

theorem isStringBody_stringifyBody : ∀ value : Units, IsStringBody (stringifyBody value)
  | []                   => .nil
  | [unit]               => isStringBody_stringifyUnit unit
  | unit :: next :: rest => by
    rw [stringifyBody]
    split
    · rename_i h
      obtain ⟨hh, hl⟩ := Bool.and_eq_true_iff.1 h
      exact .plain (plainUnit_of_surrogate (Or.inl hh)) (.plain (plainUnit_of_surrogate (Or.inr hl))
        (isStringBody_stringifyBody rest))
    · exact isStringBody_append (isStringBody_stringifyUnit unit) (isStringBody_stringifyBody (next :: rest))

theorem isJson_stringify (value : Units) : IsJson (stringify value) := .string (isStringBody_stringifyBody value)

theorem isJson_truncationMarker : IsJson truncationMarker :=
  @IsJson.string (units "__truncated__") (isStringBody_of_plainName (by unfold PlainName PlainUnit; decide))

/-! ## Leaves -/

/-- A leaf is written as its number, or as a JSON value. -/
def WritesLeaves (r : Renderer) (number : (forceRedact : Bool) → Leaf → Option Units) : Prop :=
  ∀ localBudget forceRedact leaf w, ∃ v, (r.writeLeaf localBudget forceRedact leaf w).1.out = w.out ++ v ∧
    match number forceRedact leaf with
    | some printed => v = printed
    | none         => IsJson v

theorem isStringBody_escaped (value : Units) : IsStringBody (value.flatMap escapeUnit) := by
  induction value with
  | nil => exact .nil
  | cons unit rest ih => exact isStringBody_append (isStringBody_escapeUnit unit) ih

/-- What is written of a string is its units up to a cut, escaped. -/
theorem writeCharacters_out (localBudget : Nat) : ∀ (value : Units) (w : Writer), ∃ k,
    (writeCharacters localBudget value w).1.out = w.out ++ (value.take k).flatMap escapeUnit ++ units "\""
  | [], w           => ⟨0, by simp [writeCharacters]⟩
  | unit :: rest, w => by
    rw [writeCharacters]
    split
    · exact ⟨0, by simp⟩
    · obtain ⟨k, ho⟩ := writeCharacters_out localBudget rest (w.append (escapeUnit unit))
      refine ⟨k + 1, ?_⟩
      rw [ho, Writer.out_append, List.take_succ_cons, List.flatMap_cons]
      simp only [List.append_assoc]

theorem writeString_out (localBudget : Nat) (value : Units) (w : Writer) : ∃ k,
    (writeString localBudget (some value) w).1.out = w.out ++ quoted ((value.take k).flatMap escapeUnit) := by
  obtain ⟨k, ho⟩ := writeCharacters_out localBudget value (w.append (units "\""))
  refine ⟨k, ?_⟩
  rw [writeString, ho, Writer.out_append, quoted]
  simp only [List.append_assoc]

theorem writeString_json (localBudget : Nat) (value : Option Units) (w : Writer) :
    ∃ v, IsJson v ∧ (writeString localBudget value w).1.out = w.out ++ v := by
  cases value with
  | none => exact ⟨quoted [], .string .nil, by simp [writeString, quoted]⟩
  | some value =>
    obtain ⟨k, ho⟩ := writeString_out localBudget value w
    exact ⟨_, .string (isStringBody_escaped _), ho⟩

theorem plainUnit_of_isDigit {c : Char} (h : c.isDigit = true) : PlainUnit c.toNat := by
  have hq : '"'.toNat = 34 := rfl
  have hb : '\\'.toNat = 92 := rfl
  have hzero : '0'.toNat = 48 := rfl
  have hnine : '9'.toNat = 57 := rfl
  obtain ⟨hlo, hhi⟩ := Char.isDigit_iff_toNat.1 h
  unfold PlainUnit
  omega

theorem bytesText_eq (length : Nat) :
    bytesText length = quoted (units "[bytes:" ++ (Nat.toDigits 10 length).map Char.toNat ++ units "]") := by
  simp [bytesText, quoted, units]

theorem isJson_bytesText (length : Nat) : IsJson (bytesText length) := by
  have hopening : PlainName (units "[bytes:") := by unfold PlainName PlainUnit; decide
  have hclosing : PlainName (units "]") := by unfold PlainName PlainUnit; decide
  have hdigits : PlainName ((Nat.toDigits 10 length).map Char.toNat) := by
    intro unit hm
    obtain ⟨c, hc, rfl⟩ := List.mem_map.1 hm
    exact plainUnit_of_isDigit (Nat.isDigit_of_mem_toDigits (by decide) (by decide) hc)
  rw [bytesText_eq]
  exact .string (isStringBody_append (isStringBody_append (isStringBody_of_plainName hopening)
    (isStringBody_of_plainName hdigits)) (isStringBody_of_plainName hclosing))

theorem writesLeaves_writeLeaf (redactor : LogsRedactor (Option Units)) (room : Nat → Nat) :
    WritesLeaves ⟨room, redactor.isSensitiveKey, writeLeaf redactor⟩ numberOf := by
  intro localBudget forceRedact leaf w
  cases leaf with
  | text value =>
    obtain ⟨v, hv, ho⟩ := writeString_json localBudget (if forceRedact then some redactor.placeholder
      else redactor.redactValue (some value)) w
    exact ⟨v, ho, hv⟩
  | boolean flag => exact ⟨_, rfl, .boolean flag⟩
  | number finite printed => exact ⟨printed, rfl, rfl⟩
  | bytes length => exact ⟨_, rfl, isJson_bytesText length⟩
  | other formatted =>
    obtain ⟨v, hv, ho⟩ := writeString_json localBudget (if forceRedact then some redactor.placeholder
      else redactor.redactValue formatted) w
    exact ⟨v, ho, hv⟩

theorem writeStringified_json (localBudget : Nat) (value : Units) (w : Writer) :
    ∃ v, IsJson v ∧ (writeStringified localBudget value w).1.out = w.out ++ v := by
  unfold writeStringified
  dsimp only
  split
  · exact ⟨_, isJson_stringify value, rfl⟩
  · exact ⟨_, isJson_stringify _, rfl⟩

theorem writesLeaves_node (redactor : LogsRedactor Units) (maxLength : Int) :
    WritesLeaves (node redactor maxLength) numberOfNode := by
  intro localBudget forceRedact leaf w
  show ∃ v, (writeLeafNode redactor localBudget forceRedact leaf w).1.out = w.out ++ v ∧ _
  cases forceRedact with
  | true =>
    obtain ⟨v, hv, ho⟩ := writeStringified_json localBudget redactor.placeholder w
    cases leaf <;> exact ⟨v, ho, hv⟩
  | false =>
    cases leaf with
    | text value =>
      obtain ⟨v, hv, ho⟩ := writeStringified_json localBudget (redactor.redactValue value) w
      exact ⟨v, ho, hv⟩
    | boolean flag => exact ⟨_, rfl, .boolean flag⟩
    | number finite printed => exact ⟨if finite then printed else quoted printed, rfl, rfl⟩
    | bytes length => exact ⟨_, rfl, isJson_bytesText length⟩
    | other formatted =>
      obtain ⟨v, hv, ho⟩ := writeStringified_json localBudget (redactor.redactValue (formatted.getD [])) w
      exact ⟨v, ho, hv⟩

/-! ## Commands -/

theorem isStringBody_key {key : String} (h : key ∈ ["runtime", "type", "payload"]) : IsStringBody (units key) := by
  have hplain : ∀ key ∈ ["runtime", "type", "payload"], PlainName (units key) := by
    unfold PlainName PlainUnit
    decide
  exact isStringBody_of_plainName (hplain key h)

/-- What is written of a command with the texts of its payload. -/
def commandOf (runtimeName commandType : Units) (vs : List Units) : Units :=
  header runtimeName commandType ++ joined false vs ++ units "]\x7d"

def commandMembers (runtimeName commandType : Units) (vs : List Units) : List (Units × Units) :=
  [(units "runtime", quoted runtimeName), (units "type", quoted commandType),
    (units "payload", units "[" ++ joined false vs ++ units "]")]

theorem commandOf_eq (runtimeName commandType : Units) (vs : List Units) : commandOf runtimeName commandType vs =
    units "\x7b" ++ joined false ((commandMembers runtimeName commandType vs).map fun m => member (quoted m.1, m.2)) ++
      units "\x7d" := by
  simp [commandOf, commandMembers, header, Delimited.joined, member, quoted, units]

section Command

variable {runtimeName commandType : Units} (hn : PlainName runtimeName) (ht : PlainName commandType)

include hn ht

theorem forall_commandMembers {P : Units → Prop} {vs : List Units} (hstring : ∀ body, IsStringBody body → P (quoted body))
    (harray : P (units "[" ++ joined false vs ++ units "]")) : ∀ m ∈ commandMembers runtimeName commandType vs, P m.2 := by
  intro m hm
  simp only [commandMembers, List.mem_cons, List.not_mem_nil, or_false] at hm
  rcases hm with rfl | rfl | rfl
  · exact hstring _ (isStringBody_of_plainName hn)
  · exact hstring _ (isStringBody_of_plainName ht)
  · exact harray

omit hn ht in
theorem commandMembers_keys (vs : List Units) : ∀ m ∈ commandMembers runtimeName commandType vs, IsStringBody m.1 := by
  intro m hm
  simp only [commandMembers, List.mem_cons, List.not_mem_nil, or_false] at hm
  rcases hm with rfl | rfl | rfl <;> exact isStringBody_key (by decide)

theorem isJson_commandOf_iff {vs : List Units} (hs : Separate vs) :
    IsJson (commandOf runtimeName commandType vs) ↔ ∀ v ∈ vs, IsJson v := by
  rw [commandOf_eq]
  constructor
  · intro h
    have hclosed := forall_commandMembers hn ht (P := Closed) (fun body hb => passes_quoted hb)
      (closed_bracketed fun v hv => (hs v hv).1)
    have hvalues := h.of_member (commandMembers_keys vs) hclosed
    exact (hvalues (units "payload", units "[" ++ joined false vs ++ units "]") (by simp [commandMembers])).of_array hs
  · intro h
    have hvalues := forall_commandMembers hn ht (P := IsJson) (fun body hb => .string hb) (.array vs h)
    have hobject := IsJson.object ((commandMembers runtimeName commandType vs).map fun m => (quoted m.1, m.2)) (by
      intro m hm
      obtain ⟨m, hmem, rfl⟩ := List.mem_map.1 hm
      exact isKey_quoted (commandMembers_keys vs m hmem)) (by
      intro m hm
      obtain ⟨m, hmem, rfl⟩ := List.mem_map.1 hm
      exact hvalues m hmem)
    rwa [List.map_map] at hobject

theorem closed_commandOf {vs : List Units} (h : ∀ v ∈ vs, Closed v) : Closed (commandOf runtimeName commandType vs) := by
  have hclosed := forall_commandMembers hn ht (P := Closed) (fun body hb => passes_quoted hb) (closed_bracketed h)
  rw [commandOf_eq]
  apply closed_braced
  intro v hv
  obtain ⟨m, hm, rfl⟩ := List.mem_map.1 hv
  exact closed_member (isKey_quoted (commandMembers_keys vs m hm)) (hclosed m hm)

end Command

theorem inked_commandOf (runtimeName commandType : Units) (vs : List Units) :
    Inked (commandOf runtimeName commandType vs) := by
  rw [commandOf_eq]
  exact ((inked_units (by decide)).append_left _).append_left _

/-- What the end of `writeCommand` leaves of the texts of a payload. -/
def ended (withinBudget : Bool) (vs : List Units) : List Units :=
  if withinBudget then vs else vs ++ [truncationMarker]

theorem forall_ended {P : Units → Prop} (hmarker : P truncationMarker) {vs : List Units} (withinBudget : Bool) :
    (∀ v ∈ ended withinBudget vs, P v) ↔ ∀ v ∈ vs, P v := by
  cases withinBudget with
  | true => exact Iff.rfl
  | false =>
    constructor
    · exact fun h v hv => h v (List.mem_append_left _ hv)
    · intro h v hv
      rcases List.mem_append.1 hv with hv | hv
      · exact h v hv
      · rw [List.mem_singleton.1 hv]
        exact hmarker

theorem close_out {runtimeName commandType : Units} {vs : List Units} {w w' : Writer} {withinBudget hasContent : Bool}
    (ho : w'.out = (w.append (header runtimeName commandType)).out ++ joined false vs)
    (hc : hasContent = !vs.isEmpty) :
    (close withinBudget hasContent w').out = w.out ++ commandOf runtimeName commandType (ended withinBudget vs) := by
  cases withinBudget with
  | true => simp only [close, ended, commandOf, if_true, Writer.out_append, ho, List.append_assoc]
  | false =>
    have hsnoc : joined false (vs ++ [truncationMarker]) = _ := joined_snoc false vs truncationMarker
    rw [ended, if_neg Bool.false_ne_true, commandOf, hsnoc, hc]
    simp only [close, Bool.false_eq_true, if_false, Writer.out_append, ho, List.append_assoc, Bool.false_or]
    rfl

theorem out_separate (w : Writer) (hasContent : Bool) :
    (w.separate hasContent).out = w.out ++ (if hasContent then [','.toNat] else []) := by
  cases hasContent
  · exact (List.append_nil w.out).symm
  · rfl

theorem separate_ended {vs : List Units} (hs : Separate vs) (withinBudget : Bool) : Separate (ended withinBudget vs) :=
  (forall_ended (P := fun v => Closed v ∧ Inked v) ⟨isJson_truncationMarker.closed, isJson_truncationMarker.inked⟩
    withinBudget).2 hs

section Tree

variable {r : Renderer} {number : (forceRedact : Bool) → Leaf → Option Units}

mutual

/-- A value is one JSON value exactly if the numbers in it are, whatever was cut in it. -/
theorem writeValue_json (hr : WritesLeaves r number) : ∀ (item : Item), Orderly item →
    ∀ (depth localBudget : Nat) (forceRedact : Bool) (w : Writer),
      Separate (valueNumbers r number depth forceRedact item w) →
      ∃ v, (Closed v ∧ Inked v) ∧ (writeValue r depth localBudget forceRedact item w).1.out = w.out ++ v ∧
        (IsJson v ↔ ∀ p ∈ valueNumbers r number depth forceRedact item w, IsJson p)
  | .null, _, depth, localBudget, forceRedact, w, _ => by
    refine ⟨_, ⟨IsJson.null.closed, IsJson.null.inked⟩, by rw [writeValue, Writer.out_append], ?_⟩
    simp [valueNumbers, IsJson.null]
  | .leaf leaf, _, depth, localBudget, forceRedact, w, hs => by
    rw [valueNumbers] at hs ⊢
    rw [writeValue]
    split
    · exact ⟨_, ⟨isJson_truncationMarker.closed, isJson_truncationMarker.inked⟩, rfl, by simp [isJson_truncationMarker]⟩
    · rename_i hd
      rw [if_neg hd] at hs
      obtain ⟨v, ho, hv⟩ := hr localBudget forceRedact leaf w
      cases hnumber : number forceRedact leaf with
      | some printed =>
        rw [hnumber] at hs hv
        obtain rfl : v = printed := hv
        exact ⟨v, hs v (by simp), ho, by simp⟩
      | none =>
        rw [hnumber] at hv
        exact ⟨v, ⟨IsJson.closed hv, IsJson.inked hv⟩, ho, by simpa using hv⟩
  | .command runtimeName commandType payload, hw, depth, localBudget, forceRedact, w, hs => by
    rw [valueNumbers] at hs ⊢
    rw [writeValue]
    split
    · exact ⟨_, ⟨isJson_truncationMarker.closed, isJson_truncationMarker.inked⟩, rfl, by simp [isJson_truncationMarker]⟩
    · rename_i hd
      rw [if_neg hd] at hs
      obtain ⟨hn, ht, hp⟩ := hw
      obtain ⟨vs, hvs, ho, hc, hj⟩ := writePayload_json hr payload hp depth false false _ hs
      have hended := separate_ended hvs
      refine ⟨_, ⟨closed_commandOf hn ht fun v hv => (hended _ v hv).1, inked_commandOf _ _ _⟩, close_out ho hc, ?_⟩
      rw [isJson_commandOf_iff hn ht (hended _), forall_ended isJson_truncationMarker]
      exact hj

theorem writePayload_json (hr : WritesLeaves r number) : ∀ (items : List Item), AllOrderly items → ∀ (depth : Nat)
    (followsSensitiveKey hasContent : Bool) (w : Writer),
      Separate (payloadNumbers r number depth followsSensitiveKey hasContent items w) → ∃ vs, Separate vs ∧
      (writePayload r depth followsSensitiveKey hasContent items w).1.out = w.out ++ joined hasContent vs ∧
      (writePayload r depth followsSensitiveKey hasContent items w).2.2 = (hasContent || !vs.isEmpty) ∧
      ((∀ v ∈ vs, IsJson v) ↔
        ∀ p ∈ payloadNumbers r number depth followsSensitiveKey hasContent items w, IsJson p)
  | [], _, depth, followsSensitiveKey, hasContent, w, _ => by
    refine ⟨[], by simp [Separate], ?_, ?_, ?_⟩
    · rw [writePayload]
      simp [Delimited.joined]
    · rw [writePayload]
      simp
    · simp [payloadNumbers]
  | item :: rest, hw, depth, followsSensitiveKey, hasContent, w, hs => by
    rw [payloadNumbers] at hs ⊢
    rw [writePayload]
    split
    · exact ⟨[], by simp [Separate], by simp [Delimited.joined], by simp, by simp⟩
    rename_i hroom
    rw [if_neg hroom] at hs
    have hvalue := writeValue_json hr item hw.1 (depth + 1) (r.room depth) followsSensitiveKey (w.separate hasContent)
    generalize writeValue r (depth + 1) (r.room depth) followsSensitiveKey item (w.separate hasContent) = written
      at hs hvalue ⊢
    obtain ⟨v, hv, ho, hj⟩ := hvalue fun p hp => hs p (List.mem_append_left _ hp)
    rw [out_separate, List.append_assoc] at ho
    dsimp only at hs ⊢
    cases hb : written.2 with
    | true =>
      rw [hb, if_pos rfl] at hs
      obtain ⟨vs, hvs, hos, hcs, hjs⟩ := writePayload_json hr rest hw.2 depth (isKey r.isSensitiveKey item) true written.1
        fun p hp => hs p (List.mem_append_right _ hp)
      refine ⟨v :: vs, List.forall_mem_cons.2 ⟨hv, hvs⟩, ?_, ?_, ?_⟩
      · rw [if_pos rfl, hos, ho]
        simp only [Delimited.joined, List.append_assoc]
      · rw [if_pos rfl, hcs]
        simp
      · rw [if_pos rfl, List.forall_mem_cons, List.forall_mem_append, hj, hjs]
    | false =>
      refine ⟨[v], List.forall_mem_cons.2 ⟨hv, by simp⟩, ?_, by simp, ?_⟩
      · rw [if_neg Bool.false_ne_true, ho]
        simp only [Delimited.joined, List.append_nil]
      · rw [if_neg Bool.false_ne_true, List.append_nil, List.forall_mem_singleton, hj]

end

/-- A text is one JSON value if every number in it is, and only then where each of these can be told from what stands
around it: its brackets match, its quotes close, no comma in it is bare, and it is not blank. -/
structure JsonByNumbers (numbers : List Units) (text : Units) : Prop where
  enough  : (∀ p ∈ numbers, IsJson p) → IsJson text
  exactly : Separate numbers → (IsJson text ↔ ∀ p ∈ numbers, IsJson p)

theorem rendered_json (hr : WritesLeaves r number) {runtimeName commandType : Units} {payload : List Item}
    (hw : Orderly (.command runtimeName commandType payload)) :
    JsonByNumbers (writtenNumbers r number runtimeName commandType payload)
      (rendered r runtimeName commandType payload).out := by
  have hiff : Separate (writtenNumbers r number runtimeName commandType payload) →
      (IsJson (rendered r runtimeName commandType payload).out ↔
        ∀ p ∈ writtenNumbers r number runtimeName commandType payload, IsJson p) := by
    intro hs
    obtain ⟨hn, ht, hp⟩ := hw
    obtain ⟨vs, hvs, ho, hc, hj⟩ := writePayload_json hr payload hp 0 false false _ hs
    have hout : (rendered r runtimeName commandType payload).out = _ := close_out ho hc
    rw [hout, List.nil_append, isJson_commandOf_iff hn ht (separate_ended hvs _), forall_ended isJson_truncationMarker]
    exact hj
  exact ⟨fun h => (hiff (separate_of_isJson h)).2 h, hiff⟩

end Tree

/-- **When what is rendered is JSON**: of every tree with plain names, and with every limit, each of the four renderers
writes one JSON value exactly if the numbers that it writes are printed as JSON; Java and .NET write a text whenever the
limit is a length. -/
theorem rendered_is_json_iff {runtimeName commandType : Units} {payload : List Item}
    (hw : Orderly (.command runtimeName commandType payload)) :
    (∀ (redactor : LogsRedactor (Option Units)) (maxCharacters : Option Int),
      JsonByNumbers (writtenNumbers (python redactor maxCharacters) numberOf runtimeName commandType payload)
        (renderPython redactor maxCharacters runtimeName commandType payload).out) ∧
    (∀ (redactor : LogsRedactor (Option Units)) (maxCharacters : Int),
      (∀ w, renderJava redactor maxCharacters runtimeName commandType payload = some w →
        JsonByNumbers (writtenNumbers (jvm redactor maxCharacters) numberOf runtimeName commandType payload) w.out) ∧
      (∀ w, renderDotnet redactor maxCharacters runtimeName commandType payload = some w →
        JsonByNumbers (writtenNumbers (jvm redactor maxCharacters) numberOf runtimeName commandType payload) w.out) ∧
      (0 ≤ maxCharacters → (renderJava redactor maxCharacters runtimeName commandType payload).isSome = true ∧
        (renderDotnet redactor maxCharacters runtimeName commandType payload).isSome = true)) ∧
    ∀ (redactor : LogsRedactor Units) (maxLength : Int),
      JsonByNumbers (writtenNumbers (node redactor maxLength) numberOfNode runtimeName commandType payload)
        (renderNode redactor maxLength runtimeName commandType payload).out := by
  refine ⟨fun redactor maxCharacters => rendered_json (writesLeaves_writeLeaf redactor _) hw,
    fun redactor maxCharacters => ?_,
    fun redactor maxLength => rendered_json (writesLeaves_node redactor maxLength) hw⟩
  have hj := rendered_json (writesLeaves_writeLeaf redactor (localBudget maxCharacters)) hw
  unfold renderJava renderDotnet
  by_cases hneg : maxCharacters < 0
  · simp only [if_pos hneg]
    exact ⟨nofun, nofun, fun h => absurd hneg (by omega)⟩
  · simp only [if_neg hneg, Option.some.injEq, forall_eq', Option.isSome_some, and_self, implies_true, and_true]
    exact hj

/-- A number and a string with a quote and a control character, behind a name, in a command in a command. -/
def demoPayload : List Item :=
  [.leaf (.text (units "name")), .command (units "Python") (units "Invoke")
    [.leaf (.number true (units "200")), .leaf (.text [34, 1]), .null]]

def openRedactor : LogsRedactor (Option Units) := ⟨units "***", fun _ => false, id, some⟩

theorem plainNames_demo : PlainName (units "Jvm") ∧ PlainName (units "Invoke") ∧ PlainName (units "Python") := by
  unfold PlainName PlainUnit
  decide

/-- At 170 characters the string is cut before its first one, behind the number. -/
theorem rendered_is_json_iff_demo : Orderly (.command (units "Jvm") (units "Invoke") demoPayload) ∧
    IsJson (renderPython openRedactor (some 170) (units "Jvm") (units "Invoke") demoPayload).out := by
  obtain ⟨hjvm, hinvoke, hpython⟩ := plainNames_demo
  have hw : Orderly (.command (units "Jvm") (units "Invoke") demoPayload) :=
    ⟨hjvm, hinvoke, trivial, ⟨hpython, hinvoke, trivial, trivial, trivial, trivial⟩, trivial⟩
  have hnumbers : writtenNumbers (python openRedactor (some 170)) numberOf (units "Jvm") (units "Invoke") demoPayload =
      [units "200"] := by decide
  have htwoHundred : IsJson (units "200") := .number ⟨false, .positive 1 [0, 0], none, none⟩
  refine ⟨hw, ((rendered_is_json_iff hw).1 openRedactor (some 170)).enough ?_⟩
  rw [hnumbers, List.forall_mem_singleton]
  exact htwoHundred

/-- `http.HTTPStatus.OK`, an `int`, as `repr` prints it. -/
def httpStatusOk : Units := units "<HTTPStatus.OK: 200>"

theorem not_isJson_httpStatusOk : ¬ IsJson httpStatusOk := by
  intro h
  obtain ⟨unit, rest, heq, hunit⟩ := h.first
  have hfirst : unit = '<'.toNat := (List.cons.inj heq).1.symm
  rw [hfirst] at hunit
  revert hunit
  decide

theorem not_json_httpStatus : Orderly (.command (units "Python") (units "Invoke") [.leaf (.number true httpStatusOk)]) ∧
    ¬ IsJson (renderPython openRedactor (some 256) (units "Python") (units "Invoke")
      [.leaf (.number true httpStatusOk)]).out := by
  obtain ⟨-, hinvoke, hpython⟩ := plainNames_demo
  have hw : Orderly (.command (units "Python") (units "Invoke") [.leaf (.number true httpStatusOk)]) :=
    ⟨hpython, hinvoke, trivial, trivial⟩
  have hnumbers : writtenNumbers (python openRedactor (some 256)) numberOf (units "Python") (units "Invoke")
      [.leaf (.number true httpStatusOk)] = [httpStatusOk] := by decide
  have hjson : JsonByNumbers (writtenNumbers (python openRedactor (some 256)) numberOf (units "Python") (units "Invoke")
      [.leaf (.number true httpStatusOk)]) (renderPython openRedactor (some 256) (units "Python") (units "Invoke")
      [.leaf (.number true httpStatusOk)]).out := rendered_json (writesLeaves_writeLeaf openRedactor _) hw
  rw [hnumbers] at hjson
  have hplain : Closed httpStatusOk := Delimited.passes_of_plain (by decide)
  have hseparate : Separate [httpStatusOk] := List.forall_mem_singleton.2 ⟨hplain, inked_units (by decide)⟩
  refine ⟨hw, fun h => not_isJson_httpStatusOk ?_⟩
  exact (hjson.exactly hseparate).1 h httpStatusOk List.mem_cons_self

end BodyCapture
end Graftcode
