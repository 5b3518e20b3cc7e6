import Mathlib.Data.Bool.AllAny
import Graftcode.CallSpan
import Graftcode.Trimming
/-!
# IncomingTrace — the parent of a span that a call starts

`_start` of `CallSpan.py`, `start` of `CallSpan.java`, `Start` of `CallSpan.cs` and `extractParent` of `callSpan.js`: a
valid `traceparent` gives a remote parent, else a `traceid` a synthetic one in that trace.  The ports differ in how they
look a header up, in the reader of W3C headers they have from their SDK, in the white space they trim, and in whether
the trace that is current counts.
-/
namespace Graftcode
namespace Tracing

open Trimming (trim)

/-- The headers of a call in the order they are iterated in. -/
abbrev HeaderMap := List (Text × Text)

/-- The parent a span is started with: one from a `traceparent`, one made up in a trace, or the span that is current. -/
inductive Parent where
  | remote (context : SpanContext)
  | synthetic (traceId : Text)
  | current

/-- What the W3C reader of a port makes of the two headers. -/
structure W3cReader where
  parse : Text → Option SpanContext
  readState : Option Text → Text

/-! ## The code -/

/-- `_header`: the name as it is, else the first that is the same to the runtime. -/
def header (same : Text → Text → Bool) (headers : HeaderMap) (key : Text) : Option Text :=
  match headers.lookup key with
  | some value => some value
  | none       => (headers.find? fun entry => same key entry.1).map Prod.snd

/-- One of `0123456789abcdef`. -/
def isLowerHex (c : Char) : Bool := c.isDigit || (decide ('a' ≤ c) && decide (c ≤ 'f'))

def readTraceId (isSpace : Char → Bool) (raw : Text) : Option Text :=
  let hex := lower ((trim isSpace raw).filter (· != '-'))
  if hex.length ≠ 32 ∨ hex.all (· == '0') = true then none
  else if hex.all isLowerHex then some hex
  else none

section Start

variable (reader : W3cReader)

/-- `joins` are the trace ids that a span is started in for a `traceid` alone. -/
def startIn (find : Text → Option Text) (isSpace : Char → Bool) (joins : Text → Bool) : Parent :=
  match (find traceParentHeader).bind reader.parse with
  | some context => .remote { context with traceState := reader.readState (find traceStateHeader) }
  | none         =>
    match (find traceIdHeader).bind (readTraceId isSpace) with
    | some traceId => if joins traceId then .synthetic traceId else .current
    | none         => .current

/-- Another trace than that of the current span. -/
def differs (current : Option SpanContext) (traceId : Text) : Bool := current.map (·.traceId) != some traceId

namespace Python

/-- `key.lower() == name.lower()`, for a key without `k`. -/
def sameName (key name : Text) : Bool := lower key == lower name

/-- `str.isspace`, which `strip` goes by. -/
def isSpace (c : Char) : Bool :=
  let n := c.toNat
  (decide (9 ≤ n) && decide (n ≤ 13)) || (decide (28 ≤ n) && decide (n ≤ 32)) || n == 133 || n == 160 || n == 5760 ||
    (decide (8192 ≤ n) && decide (n ≤ 8202)) || n == 8232 || n == 8233 || n == 8239 || n == 8287 || n == 12288

def start (headers : HeaderMap) (current : Option SpanContext) : Parent :=
  startIn reader (header sameName headers) isSpace (differs current)

end Python

namespace Java

/-- `equalsIgnoreCase` of a letter of ASCII with any character. -/
def sameChar (k c : Char) : Bool :=
  k.toLower == c.toLower || (k == 'i' && (c == 'ı' || c == 'İ')) || (k == 's' && c == 'ſ') || (k == 'k' && c == 'K')

def equalsIgnoreCase : Text → Text → Bool
  | [], []         => true
  | k :: ks, c :: cs => sameChar k c && equalsIgnoreCase ks cs
  | _, _           => false

/-- What `trim` takes off. -/
def isSpace (c : Char) : Bool := decide (c.toNat ≤ 32)

def start (headers : HeaderMap) (current : Option SpanContext) : Parent :=
  startIn reader (header equalsIgnoreCase headers) isSpace (differs current)

end Java

namespace DotNet

/-- `Char.IsWhiteSpace`, which `Trim` goes by. -/
def isSpace (c : Char) : Bool :=
  let n := c.toNat
  (decide (9 ≤ n) && decide (n ≤ 13)) || n == 32 || n == 133 || n == 160 || n == 5760 ||
    (decide (8192 ≤ n) && decide (n ≤ 8202)) || n == 8232 || n == 8233 || n == 8239 || n == 8287 || n == 12288

/-- `TryGetValue` compares names as they are. -/
def start (headers : HeaderMap) (current : Option SpanContext) : Parent :=
  startIn reader (fun key => headers.lookup key) isSpace (differs current)

end DotNet

namespace Node

/-- What `trim` takes off. -/
def isSpace (c : Char) : Bool :=
  let n := c.toNat
  (decide (9 ≤ n) && decide (n ≤ 13)) || n == 32 || n == 160 || n == 5760 ||
    (decide (8192 ≤ n) && decide (n ≤ 8202)) || n == 8232 || n == 8233 || n == 8239 || n == 8287 || n == 12288 ||
    n == 65279

/-- A `traceid` is not compared with the trace that is current. -/
def extractParent (headers : HeaderMap) : Parent :=
  startIn reader (fun key => headers.lookup key) isSpace fun _ => true

end Node

end Start

/-! ## The rule -/

/-- White space to all four runtimes: blank, tab, line break, vertical tab, form feed, carriage return. -/
def commonSpace (c : Char) : Bool := (decide (9 ≤ c.toNat) && decide (c.toNat ≤ 13)) || c.toNat == 32

/-- A header of the name in any capitalisation. -/
def Named (headers : HeaderMap) (key value : Text) : Prop := ∃ name, (name, value) ∈ headers ∧ lower name = key

/-- The text is the id's 32 hexadecimal digits, not all zero and with dashes anywhere, between white space. -/
def Holds (isSpace : Char → Bool) (raw traceId : Text) : Prop :=
  ∃ before digits after, raw = before ++ digits ++ after ∧ (∀ c ∈ before, isSpace c = true) ∧
    (∀ c ∈ after, isSpace c = true) ∧ lower (digits.filter (· != '-')) = traceId ∧ traceId.length = 32 ∧
    (∀ c ∈ traceId, isLowerHex c = true) ∧ ∃ c ∈ traceId, c ≠ '0'

/-- The same context but for the trace state. -/
def SameSpan (context context' : SpanContext) : Prop :=
  { context with traceState := [] } = { context' with traceState := [] }

structure Readers where
  python : W3cReader
  java : W3cReader
  dotNet : W3cReader
  node : W3cReader

section Rule

/- `valid` says which texts are valid, and of which context. -/
variable (valid : Text → Option SpanContext) (headers : HeaderMap) (current : Option SpanContext)

def HasTraceParent : Prop := ∃ value context, Named headers traceParentHeader value ∧ valid value = some context

/-- A `traceid` names a trace that is not the current one. -/
def NamesOther (traceId : Text) : Prop :=
  ∃ value, Named headers traceIdHeader value ∧ Holds commonSpace value traceId ∧ differs current traceId = true

/-- The parent the rule allows; where a name is there in several capitalisations, any of them may decide. -/
inductive Follows : Parent → Prop
  | remote {value : Text} {context context' : SpanContext} (named : Named headers traceParentHeader value)
      (valid : valid value = some context) (same : SameSpan context context') : Follows (.remote context')
  | synthetic {traceId : Text} (none : ¬ HasTraceParent valid headers) (names : NamesOther headers current traceId) :
      Follows (.synthetic traceId)
  | current (none : ¬ HasTraceParent valid headers) (nameless : ∀ traceId, ¬ NamesOther headers current traceId) :
      Follows .current

/-- All four ports choose a parent the rule allows. -/
def PortsFollow (readers : Readers) : Prop :=
  Follows valid headers current (Python.start readers.python headers current) ∧
    Follows valid headers current (Java.start readers.java headers current) ∧
    Follows valid headers current (DotNet.start readers.dotNet headers current) ∧
    Follows valid headers current (Node.extractParent readers.node headers)

/-- A port finds a `traceparent`, and its reader reads in it the context that a valid one has. -/
def Reads (reader : W3cReader) (found : Option Text) : Prop :=
  ∃ value context, found = some value ∧ reader.parse value = some context ∧
    ∃ value' context', Named headers traceParentHeader value' ∧ valid value' = some context' ∧ SameSpan context' context

/-- What the headers are for the ports to agree: a valid `traceparent` is read by all four, an invalid one by none; and
what counts is spelled as the two ports look for it that compare names as they are, and a `traceid` that does not count
is none to any port. -/
structure Plain (readers : Readers) : Prop where
  traceParent : HasTraceParent valid headers →
    Reads valid headers readers.python (header Python.sameName headers traceParentHeader) ∧
      Reads valid headers readers.java (header Java.equalsIgnoreCase headers traceParentHeader) ∧
      Reads valid headers readers.dotNet (headers.lookup traceParentHeader) ∧
      Reads valid headers readers.node (headers.lookup traceParentHeader)
  invalid : ¬ HasTraceParent valid headers →
    (header Python.sameName headers traceParentHeader).bind readers.python.parse = none ∧
      (header Java.equalsIgnoreCase headers traceParentHeader).bind readers.java.parse = none ∧
      (headers.lookup traceParentHeader).bind readers.dotNet.parse = none ∧
      (headers.lookup traceParentHeader).bind readers.node.parse = none
  other : ¬ HasTraceParent valid headers → (∃ traceId, NamesOther headers current traceId) →
    ∃ value traceId, headers.lookup traceIdHeader = some value ∧ Holds commonSpace value traceId ∧
      differs current traceId = true
  nameless : ¬ HasTraceParent valid headers → (∀ traceId, ¬ NamesOther headers current traceId) →
    (∀ value traceId, header Python.sameName headers traceIdHeader = some value → Holds Python.isSpace value traceId →
      differs current traceId = false) ∧
    (∀ value traceId, header Java.equalsIgnoreCase headers traceIdHeader = some value →
      Holds Java.isSpace value traceId → differs current traceId = false) ∧
    (∀ value traceId, headers.lookup traceIdHeader = some value → Holds DotNet.isSpace value traceId →
      differs current traceId = false) ∧
    ∀ value traceId, headers.lookup traceIdHeader = some value → ¬ Holds Node.isSpace value traceId

end Rule

/-! ## Reading an id -/

section Read

variable {isSpace isSpace' : Char → Bool} {raw traceId traceId' : Text}

/-- A dash, or a hexadecimal digit in either case. -/
def isIdChar (c : Char) : Bool := c == '-' || isLowerHex c.toLower

theorem isIdChar_of_digits {digits : Text} (h : ∀ c ∈ lower (digits.filter (· != '-')), isLowerHex c = true) :
    ∀ c ∈ digits, isIdChar c = true := by
  intro c hc
  unfold isIdChar
  by_cases hdash : c = '-'
  · simp [hdash]
  · have hmem : c.toLower ∈ lower (digits.filter (· != '-')) :=
      List.mem_map_of_mem (List.mem_filter.2 ⟨hc, by simpa using hdash⟩)
    rw [h _ hmem, Bool.or_true]

theorem readTraceId_iff (hspace : ∀ c, isIdChar c = true → isSpace c = false) :
    readTraceId isSpace raw = some traceId ↔ Holds isSpace raw traceId := by
  have hread : readTraceId isSpace raw = some traceId ↔ lower ((trim isSpace raw).filter (· != '-')) = traceId ∧
      traceId.length = 32 ∧ (∀ c ∈ traceId, isLowerHex c = true) ∧ ∃ c ∈ traceId, c ≠ '0' := by
    unfold readTraceId
    generalize lower ((trim isSpace raw).filter (· != '-')) = hex
    constructor
    · intro h
      dsimp only at h
      split at h
      · cases h
      rename_i hshape
      split at h
      · rename_i hhex
        cases h
        simp only [not_or, not_not, List.all_eq_true, beq_iff_eq, not_forall] at hshape
        obtain ⟨hlength, c, hc, hzero⟩ := hshape
        exact ⟨rfl, hlength, List.all_eq_true.1 hhex, c, hc, hzero⟩
      · cases h
    · rintro ⟨rfl, hlength, hhex, c, hc, hzero⟩
      have hshape : ¬ (hex.length ≠ 32 ∨ hex.all (· == '0') = true) := by
        rintro (hlength' | hzeros)
        · exact hlength' hlength
        · exact hzero (by simpa using List.all_eq_true.1 hzeros c hc)
      dsimp only
      rw [if_neg hshape, if_pos (List.all_eq_true.2 hhex)]
  rw [hread]
  constructor
  · rintro ⟨hid, hvalid⟩
    obtain ⟨⟨before, after, hraw, hbefore, hafter⟩, -⟩ :=
      Trimming.trim_eq_iff.1 (rfl : trim isSpace raw = trim isSpace raw)
    exact ⟨before, _, after, hraw, hbefore, hafter, hid, hvalid⟩
  · rintro ⟨before, digits, after, hraw, hbefore, hafter, hid, hvalid⟩
    have hchars := isIdChar_of_digits (hid ▸ hvalid.2.1)
    have htrim : trim isSpace raw = digits :=
      Trimming.trim_eq_iff.2 ⟨⟨before, after, hraw, hbefore, hafter⟩,
        fun c hc => hspace c (hchars c (List.mem_of_mem_head? hc)),
        fun c hc => hspace c (hchars c (List.mem_of_mem_getLast? hc))⟩
    exact ⟨htrim ▸ hid, hvalid⟩

theorem Holds.mono (hspace : ∀ c, isSpace c = true → isSpace' c = true) (h : Holds isSpace raw traceId) :
    Holds isSpace' raw traceId := by
  obtain ⟨before, digits, after, hraw, hbefore, hafter, hvalid⟩ := h
  exact ⟨before, digits, after, hraw, fun c hc => hspace c (hbefore c hc), fun c hc => hspace c (hafter c hc), hvalid⟩

/-- What surrounds an id is the same to everyone who reads it. -/
theorem Holds.inter (h : Holds isSpace raw traceId) (h' : Holds isSpace' raw traceId')
    (hspace : ∀ c, isIdChar c = true → isSpace c = false) (hspace' : ∀ c, isIdChar c = true → isSpace' c = false) :
    Holds (fun c => isSpace c && isSpace' c) raw traceId ∧ traceId = traceId' := by
  obtain ⟨before, digits, after, hraw, hbefore, hafter, rfl, hlength, hhex, hzero⟩ := h
  obtain ⟨before', digits', after', hraw', hbefore', hafter', rfl, hlength', hhex', -⟩ := h'
  have hplain {space : Char → Bool} {block : Text} (hs : ∀ c, isIdChar c = true → space c = false)
      (hblock : ∀ c ∈ block, space c = true) : ∀ c ∈ block, (!isIdChar c) = true := by
    intro c hc
    rw [Bool.not_eq_true', ← Bool.not_eq_true]
    intro hid
    have hwhite := hblock c hc
    rw [hs c hid] at hwhite
    cases hwhite
  have hcore {block : Text} (hblock : ∀ c ∈ lower (block.filter (· != '-')), isLowerHex c = true) :
      ∀ c ∈ block, (!isIdChar c) = false := fun c hc => by rw [isIdChar_of_digits hblock c hc]; rfl
  have hne {block : Text} (hlen : (lower (block.filter (· != '-'))).length = 32) : block ≠ [] := by
    rintro rfl
    cases hlen
  obtain ⟨rfl, rfl, rfl⟩ := Trimming.split_unique (hraw.symm.trans hraw') (hplain hspace hbefore) (hcore hhex)
    (hplain hspace hafter) (hplain hspace' hbefore') (hcore hhex') (hplain hspace' hafter') (hne hlength) (hne hlength')
  refine ⟨⟨before, digits, after, hraw, fun c hc => ?_, fun c hc => ?_, rfl, hlength, hhex, hzero⟩, rfl⟩
  · exact Bool.and_eq_true_iff.2 ⟨hbefore c hc, hbefore' c hc⟩
  · exact Bool.and_eq_true_iff.2 ⟨hafter c hc, hafter' c hc⟩

/-- The characters of an id lie between the dash and `f`. -/
theorem isIdChar_range {c : Char} (h : isIdChar c = true) : 45 ≤ c.toNat ∧ c.toNat ≤ 102 := by
  unfold isIdChar at h
  rw [Bool.or_eq_true, beq_iff_eq] at h
  rcases h with rfl | h
  · decide
  · unfold Char.toLower at h
    split at h
    · rename_i hupper
      have hlow : 65 ≤ c.toNat := hupper.1
      have hhigh : c.toNat ≤ 90 := hupper.2
      omega
    · simp only [isLowerHex, Char.isDigit, Bool.or_eq_true, Bool.and_eq_true, decide_eq_true_eq] at h
      rcases h with ⟨hlow, hhigh⟩ | ⟨hlow, hhigh⟩
      · have hlow : 48 ≤ c.toNat := hlow
        have hhigh : c.toNat ≤ 57 := hhigh
        omega
      · have hlow : 97 ≤ c.toNat := hlow
        have hhigh : c.toNat ≤ 102 := hhigh
        omega

/-- White space outside that range stands in no id. -/
theorem isSpace_of_range (hspace : ∀ {c}, isSpace c = true → c.toNat ≤ 32 ∨ 133 ≤ c.toNat) {c : Char}
    (h : isIdChar c = true) : isSpace c = false := by
  have hrange := isIdChar_range h
  rw [← Bool.not_eq_true]
  intro hwhite
  have := hspace hwhite
  omega

theorem python_isSpace {c : Char} : isIdChar c = true → Python.isSpace c = false :=
  isSpace_of_range fun hc => by
    simp only [Python.isSpace, Bool.or_eq_true, Bool.and_eq_true, decide_eq_true_eq, beq_iff_eq] at hc
    omega

theorem java_isSpace {c : Char} : isIdChar c = true → Java.isSpace c = false :=
  isSpace_of_range fun hc => Or.inl (of_decide_eq_true hc)

theorem dotNet_isSpace {c : Char} : isIdChar c = true → DotNet.isSpace c = false :=
  isSpace_of_range fun hc => by
    simp only [DotNet.isSpace, Bool.or_eq_true, Bool.and_eq_true, decide_eq_true_eq, beq_iff_eq] at hc
    omega

theorem node_isSpace {c : Char} : isIdChar c = true → Node.isSpace c = false :=
  isSpace_of_range fun hc => by
    simp only [Node.isSpace, Bool.or_eq_true, Bool.and_eq_true, decide_eq_true_eq, beq_iff_eq] at hc
    omega

/-- White space to Python and Java at once is white space to all. -/
theorem commonSpace_iff (c : Char) : commonSpace c = true ↔
    (((Python.isSpace c && Java.isSpace c) && DotNet.isSpace c) && Node.isSpace c) = true := by
  simp only [commonSpace, Python.isSpace, Java.isSpace, DotNet.isSpace, Node.isSpace, Bool.or_eq_true, Bool.and_eq_true,
    decide_eq_true_eq, beq_iff_eq]
  omega

end Read

/-! ## The ports -/

section Ports

variable {valid : Text → Option SpanContext} {reader : W3cReader} {readers : Readers} {headers : HeaderMap}
  {current : Option SpanContext} {key value : Text}

theorem named_of_lookup (hkey : lower key = key) (h : headers.lookup key = some value) : Named headers key value := by
  obtain ⟨before, after, rfl, -⟩ := List.lookup_eq_some_iff.1 h
  exact ⟨key, List.mem_append_right _ List.mem_cons_self, hkey⟩

theorem header_of_lookup {same : Text → Text → Bool} (h : headers.lookup key = some value) :
    header same headers key = some value := by
  rw [header, h]

theorem follows_synthetic_iff {traceId : Text} (hno : ¬ HasTraceParent valid headers) :
    Follows valid headers current (.synthetic traceId) ↔ NamesOther headers current traceId := by
  constructor
  · rintro (_ | ⟨-, hnames⟩)
    exact hnames
  · exact .synthetic hno

theorem follows_current_iff (hno : ¬ HasTraceParent valid headers) :
    Follows valid headers current .current ↔ ∀ traceId, ¬ NamesOther headers current traceId := by
  constructor
  · rintro (_ | _ | ⟨-, hnameless⟩)
    exact hnameless
  · exact .current hno

theorem hasTraceParent_of_follows {parent : Parent} (hhas : HasTraceParent valid headers)
    (h : Follows valid headers current parent) : ∃ context, parent = .remote context := by
  cases h with
  | remote => exact ⟨_, rfl⟩
  | synthetic hno _ => exact absurd hhas hno
  | current hno _ => exact absurd hhas hno

section StartIn

variable {find : Text → Option Text} {isSpace : Char → Bool} {joins : Text → Bool}

theorem startIn_remote {context : SpanContext} (hremote : (find traceParentHeader).bind reader.parse = some context) :
    startIn reader find isSpace joins =
      .remote { context with traceState := reader.readState (find traceStateHeader) } := by
  rw [startIn, hremote]

theorem startIn_ne_remote (hremote : (find traceParentHeader).bind reader.parse = none) (context : SpanContext) :
    startIn reader find isSpace joins ≠ .remote context := by
  intro h
  rw [startIn, hremote] at h
  dsimp only at h
  split at h
  · split at h <;> cases h
  · cases h

theorem startIn_synthetic_iff (hspace : ∀ c, isIdChar c = true → isSpace c = false)
    (hremote : (find traceParentHeader).bind reader.parse = none) {traceId : Text} :
    startIn reader find isSpace joins = .synthetic traceId ↔
      ∃ value, find traceIdHeader = some value ∧ Holds isSpace value traceId ∧ joins traceId = true := by
  rw [startIn, hremote]
  dsimp only
  cases hfound : (find traceIdHeader).bind (readTraceId isSpace) with
  | none =>
    apply iff_of_false nofun
    rintro ⟨value, hvalue, hholds, -⟩
    rw [hvalue, Option.bind_some, (readTraceId_iff hspace).2 hholds] at hfound
    cases hfound
  | some traceId' =>
    obtain ⟨value', hvalue', hid⟩ := Option.bind_eq_some_iff.1 hfound
    dsimp only
    constructor
    · intro h
      split at h
      · rename_i hjoins
        cases h
        exact ⟨value', hvalue', (readTraceId_iff hspace).1 hid, hjoins⟩
      · cases h
    · rintro ⟨value, hvalue, hholds, hjoins⟩
      rw [hvalue, Option.bind_some, (readTraceId_iff hspace).2 hholds] at hfound
      cases hfound
      exact if_pos hjoins

theorem startIn_current_iff (hspace : ∀ c, isIdChar c = true → isSpace c = false)
    (hremote : (find traceParentHeader).bind reader.parse = none) :
    startIn reader find isSpace joins = .current ↔
      ∀ value traceId, find traceIdHeader = some value → Holds isSpace value traceId → joins traceId = false := by
  constructor
  · intro h value traceId hvalue hholds
    rw [← Bool.not_eq_true]
    intro hjoins
    rw [(startIn_synthetic_iff hspace hremote).2 ⟨value, hvalue, hholds, hjoins⟩] at h
    cases h
  · intro hnone
    cases hstart : startIn reader find isSpace joins with
    | remote context => exact absurd hstart (startIn_ne_remote hremote context)
    | synthetic traceId =>
      obtain ⟨value, hvalue, hholds, hjoins⟩ := (startIn_synthetic_iff hspace hremote).1 hstart
      rw [hnone value traceId hvalue hholds] at hjoins
      cases hjoins
    | current => rfl

/-- What a port finds, and joins, is what counts. -/
structure Finds (valid : Text → Option SpanContext) (headers : HeaderMap) (current : Option SpanContext)
    (reader : W3cReader) (find : Text → Option Text) (isSpace : Char → Bool) (joins : Text → Bool) : Prop where
  traceParent : HasTraceParent valid headers → Reads valid headers reader (find traceParentHeader)
  invalid : ¬ HasTraceParent valid headers → (find traceParentHeader).bind reader.parse = none
  other : ¬ HasTraceParent valid headers → (∃ traceId, NamesOther headers current traceId) →
    ∃ value traceId, find traceIdHeader = some value ∧ Holds isSpace value traceId ∧ joins traceId = true ∧
      NamesOther headers current traceId
  nameless : ¬ HasTraceParent valid headers → (∀ traceId, ¬ NamesOther headers current traceId) →
    ∀ value traceId, find traceIdHeader = some value → Holds isSpace value traceId → joins traceId = false

theorem follows_remote_iff {context : SpanContext} : Follows valid headers current (.remote context) ↔
    ∃ value' context', Named headers traceParentHeader value' ∧ valid value' = some context' ∧
      SameSpan context' context := by
  constructor
  · rintro (⟨hnamed, hvalid, hsame⟩ | _ | _)
    exact ⟨_, _, hnamed, hvalid, hsame⟩
  · rintro ⟨value', context', hnamed, hvalid, hsame⟩
    exact .remote hnamed hvalid hsame

theorem startIn_follows_remote {context : SpanContext}
    (hremote : (find traceParentHeader).bind reader.parse = some context) :
    Follows valid headers current (startIn reader find isSpace joins) ↔
      Finds valid headers current reader find isSpace joins := by
  obtain ⟨value, hvalue, hparse⟩ := Option.bind_eq_some_iff.1 hremote
  rw [startIn_remote hremote, follows_remote_iff]
  constructor
  · rintro ⟨value', context', hnamed, hvalid, hsame⟩
    have hhas : HasTraceParent valid headers := ⟨value', context', hnamed, hvalid⟩
    exact ⟨fun _ => ⟨value, context, hvalue, hparse, value', context', hnamed, hvalid, hsame⟩,
      fun hno => absurd hhas hno, fun hno => absurd hhas hno, fun hno => absurd hhas hno⟩
  · intro h
    by_cases hhas : HasTraceParent valid headers
    · obtain ⟨value₁, context₁, hvalue₁, hparse₁, value', context', hnamed, hvalid, hsame⟩ := h.traceParent hhas
      rw [hvalue, Option.some.injEq] at hvalue₁
      subst hvalue₁
      rw [hparse, Option.some.injEq] at hparse₁
      subst hparse₁
      exact ⟨value', context', hnamed, hvalid, hsame⟩
    · rw [h.invalid hhas] at hremote
      cases hremote

/-- A port that joins no remote span does not follow the rule where some traceparent counts. -/
theorem startIn_not_follows (hremote : (find traceParentHeader).bind reader.parse = none)
    (hhas : HasTraceParent valid headers) :
    Follows valid headers current (startIn reader find isSpace joins) ↔
      Finds valid headers current reader find isSpace joins := by
  refine iff_of_false (fun h => ?_) fun h => ?_
  · obtain ⟨context, hstart⟩ := hasTraceParent_of_follows hhas h
    exact startIn_ne_remote hremote context hstart
  · obtain ⟨value, context, hvalue, hparse, -⟩ := h.traceParent hhas
    rw [hvalue, Option.bind_some, hparse] at hremote
    cases hremote

theorem startIn_follows_synthetic (hspace : ∀ c, isIdChar c = true → isSpace c = false)
    (hremote : (find traceParentHeader).bind reader.parse = none) (hno : ¬ HasTraceParent valid headers) {traceId : Text}
    (hstart : startIn reader find isSpace joins = .synthetic traceId) :
    Follows valid headers current (.synthetic traceId) ↔ Finds valid headers current reader find isSpace joins := by
  obtain ⟨value, hvalue, hholds, hjoins⟩ := (startIn_synthetic_iff hspace hremote).1 hstart
  rw [follows_synthetic_iff hno]
  constructor
  · intro hnames
    exact ⟨fun h => absurd h hno, fun _ => hremote, fun _ _ => ⟨value, traceId, hvalue, hholds, hjoins, hnames⟩,
      fun _ hnameless => absurd hnames (hnameless traceId)⟩
  · intro h
    by_cases hany : ∃ traceId, NamesOther headers current traceId
    · obtain ⟨value', traceId', hvalue', hholds', hjoins', hnames⟩ := h.other hno hany
      rw [(startIn_synthetic_iff hspace hremote).2 ⟨value', hvalue', hholds', hjoins'⟩] at hstart
      cases hstart
      exact hnames
    · rw [h.nameless hno (not_exists.1 hany) value traceId hvalue hholds] at hjoins
      cases hjoins

theorem startIn_follows_current (hspace : ∀ c, isIdChar c = true → isSpace c = false)
    (hremote : (find traceParentHeader).bind reader.parse = none) (hno : ¬ HasTraceParent valid headers)
    (hstart : startIn reader find isSpace joins = .current) :
    Follows valid headers current .current ↔ Finds valid headers current reader find isSpace joins := by
  have hnone := (startIn_current_iff hspace hremote).1 hstart
  rw [follows_current_iff hno]
  constructor
  · intro hnameless
    exact ⟨fun h => absurd h hno, fun _ => hremote, fun _ ⟨traceId, hnames⟩ => absurd hnames (hnameless traceId),
      fun _ _ => hnone⟩
  · intro h traceId hnames
    obtain ⟨value, traceId', hvalue, hholds, hjoins, -⟩ := h.other hno ⟨traceId, hnames⟩
    rw [hnone value traceId' hvalue hholds] at hjoins
    cases hjoins

/-- **A port follows the rule** exactly when what it finds is what counts. -/
theorem startIn_follows_iff (hspace : ∀ c, isIdChar c = true → isSpace c = false) :
    Follows valid headers current (startIn reader find isSpace joins) ↔
      Finds valid headers current reader find isSpace joins := by
  cases hremote : (find traceParentHeader).bind reader.parse with
  | some context => exact startIn_follows_remote hremote
  | none =>
    by_cases hhas : HasTraceParent valid headers
    · exact startIn_not_follows hremote hhas
    · cases hstart : startIn reader find isSpace joins with
      | remote context    => exact absurd hstart (startIn_ne_remote hremote context)
      | synthetic traceId => exact startIn_follows_synthetic hspace hremote hhas hstart
      | current           => exact startIn_follows_current hspace hremote hhas hstart

end StartIn

theorem lower_traceIdHeader : lower traceIdHeader = traceIdHeader := by decide

/-- An id that all ports read in the same text stands between white space common to them. -/
theorem holds_common {raw idP idJ idD idN : Text} (hp : Holds Python.isSpace raw idP) (hj : Holds Java.isSpace raw idJ)
    (hd : Holds DotNet.isSpace raw idD) (hn : Holds Node.isSpace raw idN) : Holds commonSpace raw idD := by
  obtain ⟨h₁, rfl⟩ := hp.inter hj (fun c => python_isSpace) fun c => java_isSpace
  obtain ⟨h₂, rfl⟩ := h₁.inter hd (fun c hc => by rw [python_isSpace hc]; rfl) fun c => dotNet_isSpace
  obtain ⟨h₃, -⟩ := h₂.inter hn (fun c hc => by rw [python_isSpace hc]; rfl) fun c => node_isSpace
  exact h₃.mono fun c => (commonSpace_iff c).2

/-- What a plain map has for the ports that compare names as they are, it has for all. -/
theorem Plain.finds (hplain : Plain valid headers current readers) {find : Text → Option Text} {isSpace : Char → Bool}
    {joins : Text → Bool} (hfind : ∀ key value, headers.lookup key = some value → find key = some value)
    (hspace : ∀ c, commonSpace c = true → isSpace c = true)
    (hjoins : ∀ traceId, differs current traceId = true → joins traceId = true)
    (htraceParent : HasTraceParent valid headers → Reads valid headers reader (find traceParentHeader))
    (hinvalid : ¬ HasTraceParent valid headers → (find traceParentHeader).bind reader.parse = none)
    (hnameless : ¬ HasTraceParent valid headers → (∀ traceId, ¬ NamesOther headers current traceId) →
      ∀ value traceId, find traceIdHeader = some value → Holds isSpace value traceId → joins traceId = false) :
    Finds valid headers current reader find isSpace joins where
  traceParent := htraceParent
  invalid := hinvalid
  other := by
    intro hno hany
    obtain ⟨value, traceId, hvalue, hholds, hdiffers⟩ := hplain.other hno hany
    exact ⟨value, traceId, hfind _ _ hvalue, hholds.mono hspace, hjoins _ hdiffers, value,
      named_of_lookup lower_traceIdHeader hvalue, hholds, hdiffers⟩
  nameless := hnameless

/-! ### Port by port -/

theorem python_follows_iff : Follows valid headers current (Python.start reader headers current) ↔
    Finds valid headers current reader (header Python.sameName headers) Python.isSpace (differs current) :=
  startIn_follows_iff fun _ => python_isSpace

theorem java_follows_iff : Follows valid headers current (Java.start reader headers current) ↔
    Finds valid headers current reader (header Java.equalsIgnoreCase headers) Java.isSpace (differs current) :=
  startIn_follows_iff fun _ => java_isSpace

theorem dotNet_follows_iff : Follows valid headers current (DotNet.start reader headers current) ↔
    Finds valid headers current reader (fun key => headers.lookup key) DotNet.isSpace (differs current) :=
  startIn_follows_iff fun _ => dotNet_isSpace

theorem node_follows_iff : Follows valid headers current (Node.extractParent reader headers) ↔
    Finds valid headers current reader (fun key => headers.lookup key) Node.isSpace fun _ => true :=
  startIn_follows_iff fun _ => node_isSpace

end Ports

/-- A trace id under a name that begins with a capital. -/
def capitalised : HeaderMap := [("TraceId".toList, "0af7651916cd43dd8448eb211c80319c".toList)]

/-- A reader that is given no `traceparent`. -/
def readsNone : W3cReader := ⟨fun _ => none, fun _ => []⟩

end Tracing
end Graftcode
