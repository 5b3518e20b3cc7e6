import Graftcode.IncomingTrace
/-!
# OperationName — the name of a call, in four languages

`OperationName.py`, `OperationName.java`, `OperationName.cs`, and `operationName.js` with its sibling `resolveOperation.js`.
A command is a tree: its payload holds further commands.  `spelling` is how a port's SDK writes a command type; a class is
the name that the language has for it.
-/
namespace Graftcode
namespace OperationName

open Trimming (trim)
open Tracing

/-- The command types that a name depends on, and the others. -/
inductive CommandType where
  | value
  | loadLibrary
  | invokeStaticMethod
  | invokeInstanceMethod
  | invokeGenericStaticMethod
  | invokeGenericMethod
  | getStaticField
  | setStaticField
  | getInstanceField
  | setInstanceField
  | getStaticMethodAsDelegate
  | getInstanceMethodAsDelegate
  | createClassInstance
  | createNull
  | getType
  | cast
  | invokeGlobalFunction
  | getGlobalField
  | other (name : Text)
  deriving DecidableEq

/-- What a payload holds: nothing, a string, a class, an object of a class, or a command. -/
inductive Item where
  | null
  | text (s : Text)
  | type (name : Text)
  | object (className : Text)
  | command (commandType : CommandType) (payload : List Item)

structure Command where
  commandType : CommandType
  payload     : List Item

def MAX_DEPTH : Nat := 32

def payloadAt (command : Command) (index : Nat) : Item := command.payload.getD index .null

def fallback (spelling : CommandType → Text) (command : Command) : Text :=
  "hypertube.".toList ++ spelling command.commandType

/-! ## Python, Java and .NET -/

/-- The case tables of a port, and what it takes for white space. -/
structure Port where
  memberCommands      : List CommandType
  globalCommands      : List CommandType
  namedByPayload      : List CommandType
  typedByFirstPayload : List CommandType
  isSpace             : Char → Bool

/-- `_resolve_text`.  A `Value` command without payload holds null. -/
def resolveText : Item → Nat → Option Text
  | .text s, depth                      => if depth > MAX_DEPTH then none else some s
  | .command .value (item :: _), depth  => if depth > MAX_DEPTH then none else resolveText item (depth + 1)
  | _, _                                => none

namespace Port

variable (port : Port)

def isBlank : Option Text → Bool
  | none       => true
  | some value => (trim port.isSpace value).isEmpty

def qualify (typeName memberName : Option Text) : Option Text :=
  if port.isBlank memberName then none
  else if port.isBlank typeName then memberName
  else some (typeName.getD [] ++ '.' :: memberName.getD [])

/-- The loop over the payload of a command that names its type. -/
def firstName (names : List (Option Text)) : Option Text := (names.find? fun name => !port.isBlank name).join

mutual

def resolveTypeNameCore : Item → Nat → Option Text
  | .null, _                  => none
  | .text s, depth            => if depth > MAX_DEPTH then none else some s
  | .type name, depth         => if depth > MAX_DEPTH then none else some name
  | .object className, depth  => if depth > MAX_DEPTH then none else some className
  | .command commandType payload, depth =>
    if depth > MAX_DEPTH then none else resolveTypeNameFromCommand commandType payload depth

/-- Without payload every case ends with null. -/
def resolveTypeNameFromCommand (commandType : CommandType) : List Item → Nat → Option Text
  | [], _ => none
  | item :: rest, depth =>
    if commandType = .value then resolveTypeNameCore item (depth + 1)
    else if port.namedByPayload.contains commandType then
      port.firstName ((item :: rest).map fun item => resolveText item (depth + 1))
    else if port.typedByFirstPayload.contains commandType then resolveTypeNameCore item (depth + 1)
    else none

end

def resolve (spelling : CommandType → Text) (command : Command) : Text :=
  if port.memberCommands.contains command.commandType then
    (port.qualify (port.resolveTypeNameCore (payloadAt command 0) 0) (resolveText (payloadAt command 1) 0)).getD
      (fallback spelling command)
  else if command.commandType = .createClassInstance then
    match port.resolveTypeNameCore (payloadAt command 0) 0 with
    | none             => fallback spelling command
    | some createdType => createdType ++ ".ctor".toList
  else if port.globalCommands.contains command.commandType then
    (resolveText (payloadAt command 0) 0).getD (fallback spelling command)
  else fallback spelling command

/-- The type that the library catalogue looks up. -/
def resolveTargetTypeName (command : Command) : Option Text :=
  if port.memberCommands.contains command.commandType ∨ command.commandType = .createClassInstance then
    port.resolveTypeNameCore (payloadAt command 0) 0
  else if command.commandType = .getType then
    port.resolveTypeNameCore (.command command.commandType command.payload) 0
  else none

end Port

def python : Port where
  memberCommands := [.invokeStaticMethod, .invokeInstanceMethod, .invokeGenericStaticMethod, .invokeGenericMethod,
    .getStaticField, .setStaticField, .getInstanceField, .setInstanceField, .getStaticMethodAsDelegate,
    .getInstanceMethodAsDelegate]
  globalCommands := [.invokeGlobalFunction, .getGlobalField]
  namedByPayload := [.getType, .cast, .createNull]
  typedByFirstPayload := [.createClassInstance, .setInstanceField, .invokeStaticMethod, .invokeInstanceMethod,
    .getStaticField, .getInstanceField]
  isSpace := Python.isSpace

def java : Port where
  memberCommands := [.invokeStaticMethod, .invokeInstanceMethod, .invokeGenericStaticMethod, .invokeGenericMethod,
    .getStaticField, .setStaticField, .getInstanceField, .setInstanceField, .getStaticMethodAsDelegate,
    .getInstanceMethodAsDelegate]
  globalCommands := [.invokeGlobalFunction, .getGlobalField]
  namedByPayload := [.getType, .cast, .createNull]
  typedByFirstPayload := [.createClassInstance, .setInstanceField, .invokeStaticMethod, .invokeInstanceMethod,
    .getStaticField, .getInstanceField]
  isSpace := Java.isSpace

def dotNet : Port where
  memberCommands := [.invokeStaticMethod, .invokeInstanceMethod, .invokeGenericStaticMethod, .invokeGenericMethod,
    .getStaticField, .setStaticField, .getInstanceField, .setInstanceField, .getStaticMethodAsDelegate,
    .getInstanceMethodAsDelegate]
  globalCommands := [.invokeGlobalFunction, .getGlobalField]
  namedByPayload := [.getType, .cast, .createNull]
  typedByFirstPayload := [.createClassInstance, .setInstanceField, .invokeStaticMethod, .invokeInstanceMethod,
    .getStaticField, .getInstanceField]
  isSpace := DotNet.isSpace

/-! ## Node -/

namespace Node

/-- `text.trim() || undefined`. -/
def trimmed (s : Text) : Option Text :=
  match trim Node.isSpace s with
  | []   => none
  | text => some text

def isBlank : Option Text → Bool
  | none       => true
  | some value => (trim Node.isSpace value).isEmpty

def qualify (typeName memberName : Option Text) : Option Text :=
  if isBlank memberName then none
  else if isBlank typeName then memberName
  else some (typeName.getD [] ++ '.' :: memberName.getD [])

def resolveText : Item → Nat → Option Text
  | .text s, depth                      => if depth > MAX_DEPTH then none else trimmed s
  | .command .value (item :: _), depth  => if depth > MAX_DEPTH then none else resolveText item (depth + 1)
  | _, _                                => none

mutual

/-- Anything but a string and a command is undefined. -/
def resolveTypeNameCore : Item → Nat → Option Text
  | .text s, depth => if depth > MAX_DEPTH then none else trimmed s
  | .command commandType payload, depth =>
    if depth > MAX_DEPTH then none else resolveTypeNameFromCommand commandType payload depth
  | _, _           => none

def resolveTypeNameFromCommand (commandType : CommandType) : List Item → Nat → Option Text
  | [], _ => none
  | item :: rest, depth =>
    match commandType with
    | .value => resolveTypeNameCore item (depth + 1)
    | .getType | .cast | .createNull =>
      (((item :: rest).map fun item => resolveText item (depth + 1)).find? fun name => !isBlank name).join
    | .createClassInstance | .setInstanceField | .invokeStaticMethod | .invokeInstanceMethod | .getStaticField
    | .getInstanceField => resolveTypeNameCore item (depth + 1)
    | _ => none

end

def resolve (spelling : CommandType → Text) (command : Command) : Text :=
  match command.commandType with
  | .invokeStaticMethod | .invokeInstanceMethod | .invokeGenericStaticMethod | .invokeGenericMethod | .getStaticField
  | .setStaticField | .getInstanceField | .setInstanceField | .getStaticMethodAsDelegate | .getInstanceMethodAsDelegate =>
    (qualify (resolveTypeNameCore (payloadAt command 0) 0) (resolveText (payloadAt command 1) 0)).getD
      (fallback spelling command)
  | .createClassInstance =>
    match resolveTypeNameCore (payloadAt command 0) 0 with
    | none             => fallback spelling command
    | some createdType => createdType ++ ".ctor".toList
  | .invokeGlobalFunction | .getGlobalField =>
    (resolveText (payloadAt command 0) 0).getD (fallback spelling command)
  | _ => fallback spelling command

end Node

/-! ## Trees of strings and nulls -/

/-- White space to one of the four runtimes. -/
def anySpace (c : Char) : Bool := Python.isSpace c || Java.isSpace c || DotNet.isSpace c || Tracing.Node.isSpace c

def Trimmed (s : Text) : Prop := ∀ c, s.head? = some c ∨ s.getLast? = some c → anySpace c = false

/-- A tree whose leaves are null or a string with no white space at its ends. -/
inductive Plain : Item → Prop where
  | null : Plain .null
  | text {s : Text} : Trimmed s → Plain (.text s)
  | command {commandType : CommandType} {payload : List Item} :
    (∀ item ∈ payload, Plain item) → Plain (.command commandType payload)

/-- A string with something in it. -/
def nonempty (value : Option Text) : Option Text := value.filter fun s => !s.isEmpty

@[simp] theorem nonempty_none : nonempty none = none := rfl

@[simp] theorem nonempty_nil : nonempty (some []) = none := rfl

@[simp] theorem nonempty_cons (c : Char) (s : Text) : nonempty (some (c :: s)) = some (c :: s) := rfl

/-- An item by its first argument alone. -/
@[elab_as_elim] theorem Item.inductionFirst {motive : Item → Prop} (null : motive .null)
    (text : ∀ s, motive (.text s)) (type : ∀ name, motive (.type name)) (object : ∀ className, motive (.object className))
    (command : ∀ commandType payload, motive (payload.headD .null) → motive (.command commandType payload)) :
    ∀ item, motive item
  | .null => null
  | .text s => text s
  | .type name => type name
  | .object className => object className
  | .command commandType [] => command commandType [] null
  | .command commandType (item :: rest) =>
    command commandType (item :: rest) (inductionFirst null text type object command item)

theorem Plain.headD {payload : List Item} (h : ∀ item ∈ payload, Plain item) : Plain (payload.headD .null) := by
  cases payload with
  | nil => exact Plain.null
  | cons item rest => exact h item List.mem_cons_self

theorem Plain.payloadAt {command : Command} (h : ∀ item ∈ command.payload, Plain item) (index : Nat) :
    Plain (payloadAt command index) := by
  unfold OperationName.payloadAt
  rw [List.getD_eq_getElem?_getD]
  cases hget : command.payload[index]? with
  | none => exact Plain.null
  | some item => exact h item (List.mem_of_getElem? hget)

/-! ### What the walks do at a command -/

theorem resolveText_command (commandType : CommandType) (payload : List Item) (depth : Nat) :
    resolveText (.command commandType payload) depth =
      if depth ≤ MAX_DEPTH ∧ commandType = .value then resolveText (payload.headD .null) (depth + 1) else none := by
  by_cases hv : commandType = .value
  · subst hv
    cases payload with
    | nil => simp [resolveText]
    | cons item rest =>
      by_cases h : depth ≤ MAX_DEPTH
      · simp [resolveText, h, Nat.not_lt.2 h]
      · simp [resolveText, h, Nat.not_le.1 h]
  · rw [if_neg fun h => hv h.2]
    cases commandType <;> first | rfl | exact absurd rfl hv

theorem Port.resolveTypeNameCore_command (port : Port) (commandType : CommandType) (payload : List Item) (depth : Nat) :
    port.resolveTypeNameCore (.command commandType payload) depth =
      if depth > MAX_DEPTH then none
      else if commandType = .value then port.resolveTypeNameCore (payload.headD .null) (depth + 1)
      else if port.namedByPayload.contains commandType then
        port.firstName (payload.map fun item => resolveText item (depth + 1))
      else if port.typedByFirstPayload.contains commandType then
        port.resolveTypeNameCore (payload.headD .null) (depth + 1)
      else none := by
  cases payload with
  | nil => simp [resolveTypeNameCore, resolveTypeNameFromCommand, firstName]
  | cons item rest => rfl

namespace Node

theorem resolveText_command (commandType : CommandType) (payload : List Item) (depth : Nat) :
    resolveText (.command commandType payload) depth =
      if depth ≤ MAX_DEPTH ∧ commandType = .value then resolveText (payload.headD .null) (depth + 1) else none := by
  by_cases hv : commandType = .value
  · subst hv
    cases payload with
    | nil => simp [resolveText]
    | cons item rest =>
      by_cases h : depth ≤ MAX_DEPTH
      · simp [resolveText, h, Nat.not_lt.2 h]
      · simp [resolveText, h, Nat.not_le.1 h]
  · rw [if_neg fun h => hv h.2]
    cases commandType <;> first | rfl | exact absurd rfl hv

theorem resolveTypeNameCore_command (commandType : CommandType) (payload : List Item) (depth : Nat) :
    resolveTypeNameCore (.command commandType payload) depth =
      if depth > MAX_DEPTH then none
      else if commandType = .value then resolveTypeNameCore (payload.headD .null) (depth + 1)
      else if python.namedByPayload.contains commandType then
        ((payload.map fun item => resolveText item (depth + 1)).find? fun name => !isBlank name).join
      else if python.typedByFirstPayload.contains commandType then
        resolveTypeNameCore (payload.headD .null) (depth + 1)
      else none := by
  cases payload with
  | nil => simp [resolveTypeNameCore, resolveTypeNameFromCommand]
  | cons item rest => cases commandType <;> rfl

end Node

/-! ### What the walks find in a plain tree -/

theorem trim_of_trimmed {isSpace : Char → Bool} (hspace : ∀ c, isSpace c = true → anySpace c = true) {s : Text}
    (h : Trimmed s) : trim isSpace s = s := by
  apply Trimming.trim_eq_self
  intro c hc
  by_contra hn
  have hany := hspace c (by simpa using hn)
  rw [h c hc] at hany
  cases hany

theorem node_space (c : Char) (h : Tracing.Node.isSpace c = true) : anySpace c = true := by
  simp [anySpace, h]

/-- The case tables of Python, and white space to one of the runtimes. -/
structure Port.Alike (port : Port) : Prop where
  members : port.memberCommands = python.memberCommands
  globals : port.globalCommands = python.globalCommands
  named   : port.namedByPayload = python.namedByPayload
  typed   : port.typedByFirstPayload = python.typedByFirstPayload
  space   : ∀ c, port.isSpace c = true → anySpace c = true

theorem alike_python : python.Alike :=
  ⟨rfl, rfl, rfl, rfl, fun c h => by simp [anySpace, show Python.isSpace c = true from h]⟩

theorem alike_java : java.Alike := ⟨rfl, rfl, rfl, rfl, fun c h => by simp [anySpace, show Java.isSpace c = true from h]⟩

theorem alike_dotNet : dotNet.Alike :=
  ⟨rfl, rfl, rfl, rfl, fun c h => by simp [anySpace, show DotNet.isSpace c = true from h]⟩

theorem Port.Alike.isBlank {port : Port} (hp : port.Alike) {s : Text} (h : Trimmed s) :
    port.isBlank (some s) = s.isEmpty := by
  rw [Port.isBlank, trim_of_trimmed hp.space h]

theorem Node.isBlank_some {s : Text} (h : Trimmed s) : Node.isBlank (some s) = s.isEmpty := by
  rw [Node.isBlank, trim_of_trimmed node_space h]

theorem Node.trimmed_eq {s : Text} (h : Trimmed s) : Node.trimmed s = nonempty (some s) := by
  rw [Node.trimmed, trim_of_trimmed node_space h]
  cases s <;> rfl

theorem trimmed_of_nonempty {value : Option Text} {s : Text} (h : nonempty value = some s) :
    value = some s ∧ s ≠ [] := by
  simpa [nonempty, Option.filter_eq_some_iff] using h

/-- The text of a plain item has no white space at its ends. -/
theorem trimmed_of_resolveText (item : Item) (h : Plain item) (depth : Nat) (s : Text)
    (hs : resolveText item depth = some s) : Trimmed s := by
  induction item using Item.inductionFirst generalizing depth with
  | null => cases hs
  | type name => cases hs
  | object className => cases hs
  | text t =>
    cases h with
    | text ht =>
      by_cases hd : depth > MAX_DEPTH
      · simp [resolveText, hd] at hs
      · simp only [resolveText, if_neg hd, Option.some.injEq] at hs
        rw [← hs]
        exact ht
  | command commandType payload ih =>
    cases h with
    | command hp =>
      rw [resolveText_command] at hs
      by_cases hd : depth ≤ MAX_DEPTH ∧ commandType = .value
      · rw [if_pos hd] at hs
        exact ih (Plain.headD hp) _ hs
      · rw [if_neg hd] at hs
        cases hs

theorem Node.resolveText_eq (item : Item) (h : Plain item) (depth : Nat) :
    Node.resolveText item depth = nonempty (OperationName.resolveText item depth) := by
  induction item using Item.inductionFirst generalizing depth with
  | null => rfl
  | type name => rfl
  | object className => rfl
  | text s =>
    cases h with
    | text hs =>
      by_cases hd : depth > MAX_DEPTH
      · simp [Node.resolveText, OperationName.resolveText, hd, nonempty]
      · rw [Node.resolveText, OperationName.resolveText, if_neg hd, if_neg hd, Node.trimmed_eq hs]
  | command commandType payload ih =>
    cases h with
    | command hp =>
      rw [Node.resolveText_command, OperationName.resolveText_command]
      by_cases hd : depth ≤ MAX_DEPTH ∧ commandType = .value
      · rw [if_pos hd, if_pos hd, ih (Plain.headD hp)]
      · rw [if_neg hd, if_neg hd]
        rfl

theorem Port.Alike.firstName {port : Port} (hp : port.Alike) : ∀ (names : List (Option Text)),
    (∀ s, some s ∈ names → Trimmed s) → port.firstName names = names.findSome? nonempty
  | [], _ => rfl
  | none :: names, h => hp.firstName names fun s hs => h s (List.mem_cons_of_mem _ hs)
  | some s :: names, h => by
    have hblank := hp.isBlank (h s List.mem_cons_self)
    have ih := hp.firstName names fun s hs => h s (List.mem_cons_of_mem _ hs)
    unfold Port.firstName at ih ⊢
    rw [List.find?_cons, List.findSome?_cons, hblank]
    cases s with
    | nil => exact ih
    | cons c s => rfl

theorem Node.firstName : ∀ (names : List (Option Text)), (∀ s, some s ∈ names → Trimmed s) →
    ((names.map nonempty).find? fun name => !Node.isBlank name).join = names.findSome? nonempty
  | [], _ => rfl
  | none :: names, h => Node.firstName names fun s hs => h s (List.mem_cons_of_mem _ hs)
  | some s :: names, h => by
    have hblank := Node.isBlank_some (h s List.mem_cons_self)
    have ih := Node.firstName names fun s hs => h s (List.mem_cons_of_mem _ hs)
    rw [List.map_cons, List.find?_cons, List.findSome?_cons, ← ih]
    cases s with
    | nil => rfl
    | cons c s =>
      simp only [nonempty, Option.filter_some, List.isEmpty_cons, Bool.not_false, if_true, hblank]
      rfl

theorem trimmed_of_mem_names {payload : List Item} (h : ∀ item ∈ payload, Plain item) (depth : Nat) (s : Text)
    (hs : some s ∈ payload.map fun item => resolveText item depth) : Trimmed s := by
  obtain ⟨item, hmem, hitem⟩ := List.mem_map.1 hs
  exact trimmed_of_resolveText item (h item hmem) depth s hitem

/-- The type that a plain item names has no white space at its ends, and the three ports find the same. -/
theorem Port.Alike.typeName {port : Port} (hp : port.Alike) (item : Item) (h : Plain item) (depth : Nat) :
    port.resolveTypeNameCore item depth = python.resolveTypeNameCore item depth ∧
      ∀ s, port.resolveTypeNameCore item depth = some s → Trimmed s := by
  induction item using Item.inductionFirst generalizing depth with
  | null => exact ⟨rfl, fun s hs => by cases hs⟩
  | type name => cases h
  | object className => cases h
  | text t =>
    refine ⟨rfl, fun s hs => ?_⟩
    cases h with
    | text ht =>
      by_cases hd : depth > MAX_DEPTH
      · simp [resolveTypeNameCore, hd] at hs
      · simp only [resolveTypeNameCore, if_neg hd, Option.some.injEq] at hs
        rw [← hs]
        exact ht
  | command commandType payload ih =>
    cases h with
    | command hpayload =>
      have hfirst := ih (Plain.headD hpayload) (depth + 1)
      have hnames := trimmed_of_mem_names hpayload (depth + 1)
      rw [port.resolveTypeNameCore_command, python.resolveTypeNameCore_command, hp.named, hp.typed, hp.firstName _ hnames,
        alike_python.firstName _ hnames]
      by_cases hd : depth > MAX_DEPTH
      · simp [hd]
      by_cases hv : commandType = .value
      · simpa only [if_neg hd, if_pos hv] using hfirst
      by_cases hn : python.namedByPayload.contains commandType = true
      · simp only [if_neg hd, if_neg hv, if_pos hn, true_and]
        intro s hs
        obtain ⟨name, hmem, hname⟩ := List.exists_of_findSome?_eq_some hs
        obtain ⟨rfl, -⟩ := trimmed_of_nonempty hname
        exact hnames s hmem
      by_cases ht : python.typedByFirstPayload.contains commandType = true
      · simpa only [if_neg hd, if_neg hv, if_neg hn, if_pos ht] using hfirst
      · simp only [if_neg hd, if_neg hv, if_neg hn, if_neg ht, true_and]
        intro s hs
        cases hs

theorem Node.typeName (item : Item) (h : Plain item) (depth : Nat) :
    Node.resolveTypeNameCore item depth = nonempty (python.resolveTypeNameCore item depth) := by
  induction item using Item.inductionFirst generalizing depth with
  | null => rfl
  | type name => cases h
  | object className => cases h
  | text s =>
    cases h with
    | text hs =>
      by_cases hd : depth > MAX_DEPTH
      · simp [Node.resolveTypeNameCore, Port.resolveTypeNameCore, hd, nonempty]
      · rw [Node.resolveTypeNameCore, Port.resolveTypeNameCore, if_neg hd, if_neg hd, Node.trimmed_eq hs]
  | command commandType payload ih =>
    cases h with
    | command hpayload =>
      have hfirst := ih (Plain.headD hpayload) (depth + 1)
      have hnames := trimmed_of_mem_names hpayload (depth + 1)
      have hnode : (payload.map fun item => Node.resolveText item (depth + 1)) =
          (payload.map fun item => OperationName.resolveText item (depth + 1)).map nonempty := by
        rw [List.map_map]
        exact List.map_congr_left fun item hmem => Node.resolveText_eq item (hpayload item hmem) (depth + 1)
      rw [Node.resolveTypeNameCore_command, python.resolveTypeNameCore_command, hfirst, hnode, Node.firstName _ hnames,
        alike_python.firstName _ hnames]
      by_cases hd : depth > MAX_DEPTH
      · simp [hd, nonempty]
      by_cases hv : commandType = .value
      · simp only [if_neg hd, if_pos hv]
      by_cases hn : python.namedByPayload.contains commandType = true
      · simp only [if_neg hd, if_neg hv, if_pos hn]
        cases hfound : (payload.map fun item => OperationName.resolveText item (depth + 1)).findSome? nonempty with
        | none => rfl
        | some s =>
          obtain ⟨name, -, hname⟩ := List.exists_of_findSome?_eq_some hfound
          obtain ⟨rfl, -⟩ := trimmed_of_nonempty hname
          exact hname.symm
      by_cases ht : python.typedByFirstPayload.contains commandType = true
      · simp only [if_neg hd, if_neg hv, if_neg hn, if_pos ht]
      · simp only [if_neg hd, if_neg hv, if_neg hn, if_neg ht]
        rfl

/-! ## The names -/

/-- From first argument to first argument, through at most `n` commands of the given types, to the empty string. -/
inductive LeadsToEmpty (through : List CommandType) : Nat → Item → Prop where
  | text {n : Nat} : LeadsToEmpty through n (.text [])
  | first {n : Nat} {commandType : CommandType} {item : Item} {rest : List Item} : commandType ∈ through →
    LeadsToEmpty through n item → LeadsToEmpty through (n + 1) (.command commandType (item :: rest))

theorem leadsToEmpty_command_iff {through : List CommandType} {n : Nat} {commandType : CommandType} {payload : List Item} :
    LeadsToEmpty through n (.command commandType payload) ↔
      ∃ m, n = m + 1 ∧ commandType ∈ through ∧ LeadsToEmpty through m (payload.headD .null) := by
  constructor
  · intro h
    cases h with
    | first ht hrest => exact ⟨_, rfl, ht, hrest⟩
  · rintro ⟨m, rfl, ht, hrest⟩
    cases payload with
    | nil => cases hrest
    | cons item rest => exact LeadsToEmpty.first ht hrest

theorem leadsToEmpty_text_iff {through : List CommandType} {n : Nat} {s : Text} :
    LeadsToEmpty through n (.text s) ↔ s = [] := by
  constructor
  · generalize hitem : Item.text s = item
    intro h
    cases h with
    | text => exact Item.text.inj hitem
    | first _ _ => cases hitem
  · rintro rfl
    exact LeadsToEmpty.text

theorem LeadsToEmpty.leaf {through : List CommandType} {n : Nat} {item : Item} (h : LeadsToEmpty through n item) :
    item = .text [] ∨ ∃ commandType payload, item = .command commandType payload := by
  cases h with
  | text => exact Or.inl rfl
  | first _ _ => exact Or.inr ⟨_, _, rfl⟩

theorem not_leadsToEmpty {through : List CommandType} {n : Nat} {item : Item} (htext : item ≠ .text [])
    (hcommand : ∀ commandType payload, item ≠ .command commandType payload) : ¬ LeadsToEmpty through n item := by
  intro h
  rcases h.leaf with rfl | ⟨commandType, payload, rfl⟩
  · exact htext rfl
  · exact hcommand commandType payload rfl

theorem not_leadsToEmpty_command {through : List CommandType} {n : Nat} {commandType : CommandType} {payload : List Item}
    (h : commandType ∉ through) : ¬ LeadsToEmpty through n (.command commandType payload) := by
  rw [leadsToEmpty_command_iff]
  rintro ⟨m, -, ht, -⟩
  exact h ht

/-- One command deeper: the commands left to enter are one less. -/
theorem leadsToEmpty_enter {through : List CommandType} {depth : Nat} {commandType : CommandType} {payload : List Item}
    (hd : depth ≤ MAX_DEPTH) (ht : commandType ∈ through) :
    (depth + 1 ≤ MAX_DEPTH ∧ LeadsToEmpty through (MAX_DEPTH - (depth + 1)) (payload.headD .null)) ↔
      depth ≤ MAX_DEPTH ∧ LeadsToEmpty through (MAX_DEPTH - depth) (.command commandType payload) := by
  rw [leadsToEmpty_command_iff]
  constructor
  · rintro ⟨hle, hrest⟩
    exact ⟨hd, MAX_DEPTH - (depth + 1), by omega, ht, hrest⟩
  · rintro ⟨-, m, hm, -, hrest⟩
    obtain rfl : m = MAX_DEPTH - (depth + 1) := by omega
    exact ⟨by omega, hrest⟩

theorem resolveText_eq_nil_iff (item : Item) (depth : Nat) : resolveText item depth = some [] ↔
    depth ≤ MAX_DEPTH ∧ LeadsToEmpty [.value] (MAX_DEPTH - depth) item := by
  induction item using Item.inductionFirst generalizing depth with
  | null => simp [resolveText, not_leadsToEmpty]
  | type name => simp [resolveText, not_leadsToEmpty]
  | object className => simp [resolveText, not_leadsToEmpty]
  | text s =>
    by_cases hd : depth ≤ MAX_DEPTH
    · simp [resolveText, Nat.not_lt.2 hd, hd, leadsToEmpty_text_iff]
    · simp [resolveText, Nat.not_le.1 hd, hd]
  | command commandType payload ih =>
    rw [resolveText_command]
    by_cases h : depth ≤ MAX_DEPTH ∧ commandType = .value
    · rw [if_pos h, ih, leadsToEmpty_enter h.1 (List.mem_singleton.2 h.2)]
    · rw [if_neg h, leadsToEmpty_command_iff]
      constructor
      · intro hn
        cases hn
      · rintro ⟨hd, m, -, ht, -⟩
        exact absurd ⟨hd, List.mem_singleton.1 ht⟩ h

/-- No command names its type both by its payload and by its first argument. -/
theorem not_named {commandType : CommandType} (h : commandType ∈ .value :: python.typedByFirstPayload) :
    python.namedByPayload.contains commandType = false := by
  have hall : (.value :: python.typedByFirstPayload).all (fun t => !python.namedByPayload.contains t) = true := by decide
  simpa using List.all_eq_true.1 hall commandType h

theorem typeName_eq_nil_iff (item : Item) (h : Plain item) (depth : Nat) :
    python.resolveTypeNameCore item depth = some [] ↔
      depth ≤ MAX_DEPTH ∧ LeadsToEmpty (.value :: python.typedByFirstPayload) (MAX_DEPTH - depth) item := by
  induction item using Item.inductionFirst generalizing depth with
  | null => simp [Port.resolveTypeNameCore, not_leadsToEmpty]
  | type name => cases h
  | object className => cases h
  | text s =>
    by_cases hd : depth ≤ MAX_DEPTH
    · simp [Port.resolveTypeNameCore, Nat.not_lt.2 hd, hd, leadsToEmpty_text_iff]
    · simp [Port.resolveTypeNameCore, Nat.not_le.1 hd, hd]
  | command commandType payload ih =>
    cases h with
    | command hpayload =>
      have hfirst := ih (Plain.headD hpayload) (depth + 1)
      rw [python.resolveTypeNameCore_command, alike_python.firstName _ (trimmed_of_mem_names hpayload (depth + 1))]
      by_cases hd : depth > MAX_DEPTH
      · rw [if_pos hd]
        simp [Nat.not_le.2 hd]
      rw [if_neg hd]
      rw [gt_iff_lt, Nat.not_lt] at hd
      by_cases hv : commandType = .value
      · rw [if_pos hv, hfirst, leadsToEmpty_enter hd (List.mem_cons.2 (Or.inl hv))]
      rw [if_neg hv]
      by_cases hn : python.namedByPayload.contains commandType = true
      · have hthrough : commandType ∉ .value :: python.typedByFirstPayload := by
          intro ht
          rw [not_named ht] at hn
          cases hn
        rw [if_pos hn]
        constructor
        · intro hs
          obtain ⟨name, -, hname⟩ := List.exists_of_findSome?_eq_some hs
          exact absurd rfl (trimmed_of_nonempty hname).2
        · rintro ⟨-, hleads⟩
          exact absurd hleads (not_leadsToEmpty_command hthrough)
      rw [if_neg hn]
      by_cases ht : python.typedByFirstPayload.contains commandType = true
      · rw [if_pos ht, hfirst, leadsToEmpty_enter hd (List.mem_cons_of_mem _ (List.contains_iff_mem.1 ht))]
      · have hthrough : commandType ∉ .value :: python.typedByFirstPayload := by
          intro hmem
          rcases List.mem_cons.1 hmem with rfl | hmem
          · exact hv rfl
          · exact ht (List.contains_iff_mem.2 hmem)
        rw [if_neg ht]
        constructor
        · intro hs
          cases hs
        · rintro ⟨-, hleads⟩
          exact absurd hleads (not_leadsToEmpty_command hthrough)

/-- `Type.member` of what is not empty. -/
def qualified (typeName memberName : Option Text) : Option Text :=
  (nonempty memberName).map fun member => (nonempty typeName).elim member fun type => type ++ '.' :: member

theorem Port.Alike.qualify {port : Port} (hp : port.Alike) {typeName memberName : Option Text}
    (ht : ∀ s, typeName = some s → Trimmed s) (hm : ∀ s, memberName = some s → Trimmed s) :
    port.qualify typeName memberName = qualified typeName memberName := by
  have hblank : ∀ value, (∀ s, value = some s → Trimmed s) → port.isBlank value = (nonempty value).isNone := by
    intro value h
    cases value with
    | none => rfl
    | some s =>
      rw [hp.isBlank (h s rfl)]
      cases s <;> rfl
  rw [Port.qualify, hblank _ ht, hblank _ hm, qualified]
  cases hmember : nonempty memberName with
  | none => rfl
  | some member =>
    obtain ⟨rfl, -⟩ := trimmed_of_nonempty hmember
    cases htype : nonempty typeName with
    | none => rfl
    | some type =>
      obtain ⟨rfl, -⟩ := trimmed_of_nonempty htype
      rfl

/-- The port of Python with the white space of Node: what `qualify` of Node amounts to. -/
theorem Node.qualify_eq {typeName memberName : Option Text} (ht : ∀ s, typeName = some s → Trimmed s)
    (hm : ∀ s, memberName = some s → Trimmed s) : Node.qualify typeName memberName = qualified typeName memberName := by
  have hlike : { python with isSpace := Tracing.Node.isSpace : Port }.Alike := ⟨rfl, rfl, rfl, rfl, node_space⟩
  have hblank : ∀ value, Node.isBlank value = { python with isSpace := Tracing.Node.isSpace : Port }.isBlank value := by
    intro value
    cases value <;> rfl
  rw [← hlike.qualify ht hm, Node.qualify, Port.qualify, hblank, hblank]

theorem nonempty_nonempty (value : Option Text) : nonempty (nonempty value) = nonempty value := by
  simp [nonempty]

theorem qualified_nonempty (typeName memberName : Option Text) :
    qualified (nonempty typeName) (nonempty memberName) = qualified typeName memberName := by
  simp only [qualified, nonempty_nonempty]

/-- `resolve` of Node by the tables of Python. -/
theorem Node.resolve_eq (spelling : CommandType → Text) (command : Command) : Node.resolve spelling command =
    if python.memberCommands.contains command.commandType then
      (Node.qualify (Node.resolveTypeNameCore (payloadAt command 0) 0) (Node.resolveText (payloadAt command 1) 0)).getD
        (fallback spelling command)
    else if command.commandType = .createClassInstance then
      match Node.resolveTypeNameCore (payloadAt command 0) 0 with
      | none             => fallback spelling command
      | some createdType => createdType ++ ".ctor".toList
    else if python.globalCommands.contains command.commandType then
      (Node.resolveText (payloadAt command 0) 0).getD (fallback spelling command)
    else fallback spelling command := by
  obtain ⟨commandType, payload⟩ := command
  cases commandType <;> rfl

/-- White space throughout, to one runtime or another. -/
def Blank (s : Text) : Prop := ∀ c ∈ s, anySpace c = true

/-- The four ports give one name, however a command type is spelled, and it is not blank. -/
structure NamesAgree (command : Command) : Prop where
  java     : ∀ spelling, java.resolve spelling command = python.resolve spelling command
  dotNet   : ∀ spelling, dotNet.resolve spelling command = python.resolve spelling command
  node     : ∀ spelling, Node.resolve spelling command = python.resolve spelling command
  nonblank : ∀ spelling, ¬ Blank (python.resolve spelling command)

/-- A global function, a global field or a constructor whose name is an empty string. -/
def EmptyName (command : Command) : Prop :=
  (command.commandType ∈ python.globalCommands ∧ LeadsToEmpty [.value] MAX_DEPTH (payloadAt command 0)) ∨
  (command.commandType = .createClassInstance ∧
    LeadsToEmpty (.value :: python.typedByFirstPayload) MAX_DEPTH (payloadAt command 0))

section Names

variable {command : Command} (h : ∀ item ∈ command.payload, Plain item) (spelling : CommandType → Text)

include h

theorem Port.Alike.resolve {port : Port} (hp : port.Alike) :
    port.resolve spelling command = python.resolve spelling command := by
  have htype := hp.typeName _ (Plain.payloadAt h 0) 0
  have htrim := (alike_python.typeName _ (Plain.payloadAt h 0) 0).2
  have htext := trimmed_of_resolveText _ (Plain.payloadAt h 1) 0
  rw [Port.resolve, Port.resolve, hp.members, hp.globals, htype.1, hp.qualify htrim htext,
    alike_python.qualify htrim htext]

theorem Node.qualify_plain : Node.qualify (Node.resolveTypeNameCore (payloadAt command 0) 0)
      (Node.resolveText (payloadAt command 1) 0) =
    python.qualify (python.resolveTypeNameCore (payloadAt command 0) 0)
      (OperationName.resolveText (payloadAt command 1) 0) := by
  have htrim := (alike_python.typeName _ (Plain.payloadAt h 0) 0).2
  have htext := trimmed_of_resolveText _ (Plain.payloadAt h 1) 0
  rw [Node.typeName _ (Plain.payloadAt h 0), Node.resolveText_eq _ (Plain.payloadAt h 1),
    alike_python.qualify htrim htext, Node.qualify_eq (fun s hs => htrim s (trimmed_of_nonempty hs).1)
      (fun s hs => htext s (trimmed_of_nonempty hs).1), qualified_nonempty]

theorem emptyName_iff : EmptyName command ↔
    (command.commandType ∈ python.globalCommands ∧ resolveText (payloadAt command 0) 0 = some []) ∨
    (command.commandType = .createClassInstance ∧ python.resolveTypeNameCore (payloadAt command 0) 0 = some []) := by
  rw [resolveText_eq_nil_iff, typeName_eq_nil_iff _ (Plain.payloadAt h 0), EmptyName, Nat.sub_zero]
  simp only [Nat.zero_le, true_and]

end Names

theorem not_blank_of_mem {s : Text} {c : Char} (hc : c ∈ s) (h : anySpace c = false) : ¬ Blank s := by
  intro hblank
  rw [hblank c hc] at h
  cases h

theorem not_blank_fallback (spelling : CommandType → Text) (command : Command) : ¬ Blank (fallback spelling command) :=
  not_blank_of_mem (c := 'h') (List.mem_append_left _ (by decide)) (by decide)

theorem fallback_ne_ctor (spelling : CommandType → Text) (command : Command) :
    fallback spelling command ≠ [] ++ ".ctor".toList := by
  have hhead : fallback spelling command = 'h' :: ("ypertube.".toList ++ spelling command.commandType) := rfl
  rw [hhead]
  intro heq
  injection heq with hchar _
  revert hchar
  decide

theorem not_blank_ctor (createdType : Text) : ¬ Blank (createdType ++ ".ctor".toList) :=
  not_blank_of_mem (c := '.') (List.mem_append_right _ (by decide)) (by decide)

theorem not_blank_of_trimmed {s : Text} (h : Trimmed s) (hne : s ≠ []) : ¬ Blank s := by
  obtain ⟨c, rest, rfl⟩ := List.exists_cons_of_ne_nil hne
  exact not_blank_of_mem List.mem_cons_self (h c (Or.inl rfl))

theorem not_blank_qualified {typeName memberName : Option Text} {name : Text}
    (hm : ∀ s, memberName = some s → Trimmed s) (h : qualified typeName memberName = some name) : ¬ Blank name := by
  obtain ⟨member, hmember, rfl⟩ := Option.map_eq_some_iff.1 h
  obtain ⟨rfl, hne⟩ := trimmed_of_nonempty hmember
  cases nonempty typeName with
  | none => exact not_blank_of_trimmed (hm member rfl) hne
  | some type => exact not_blank_of_mem (c := '.') (List.mem_append_right _ List.mem_cons_self) (by decide)

/-- A member is named alike in Python and Node. -/
theorem resolve_member {command : Command} (h : ∀ item ∈ command.payload, Plain item) (spelling : CommandType → Text)
    (hmember : python.memberCommands.contains command.commandType = true) :
    Node.resolve spelling command = python.resolve spelling command ∧ ¬ Blank (python.resolve spelling command) := by
  have htrim := (alike_python.typeName _ (Plain.payloadAt h 0) 0).2
  have htext := trimmed_of_resolveText _ (Plain.payloadAt h 1) 0
  rw [Node.resolve_eq, Port.resolve, if_pos hmember, if_pos hmember, Node.qualify_plain h, alike_python.qualify htrim htext]
  refine ⟨rfl, ?_⟩
  cases hname : qualified (python.resolveTypeNameCore (payloadAt command 0) 0) (resolveText (payloadAt command 1) 0) with
  | none => exact not_blank_fallback spelling command
  | some name => exact not_blank_qualified htext hname

/-- A constructor is named alike exactly when its type is not the empty string. -/
theorem resolve_constructor {command : Command} (h : ∀ item ∈ command.payload, Plain item)
    (spelling : CommandType → Text) (hmember : ¬ python.memberCommands.contains command.commandType = true)
    (hnew : command.commandType = .createClassInstance) :
    (Node.resolve spelling command = python.resolve spelling command ↔
      python.resolveTypeNameCore (payloadAt command 0) 0 ≠ some []) ∧ ¬ Blank (python.resolve spelling command) := by
  rw [Node.resolve_eq, Port.resolve, if_neg hmember, if_neg hmember, if_pos hnew, if_pos hnew,
    Node.typeName _ (Plain.payloadAt h 0)]
  cases python.resolveTypeNameCore (payloadAt command 0) 0 with
  | none => simp [not_blank_fallback]
  | some createdType =>
    refine ⟨?_, not_blank_ctor createdType⟩
    cases createdType with
    | nil =>
      rw [nonempty_nil]
      exact iff_of_false (fallback_ne_ctor spelling command) (fun hne => hne rfl)
    | cons c rest =>
      rw [nonempty_cons]
      exact iff_of_true rfl (by simp)

/-- A global is named alike, and not by nothing, exactly when its name is not the empty string. -/
theorem resolve_global {command : Command} (h : ∀ item ∈ command.payload, Plain item)
    (spelling : CommandType → Text) (hmember : ¬ python.memberCommands.contains command.commandType = true)
    (hnew : command.commandType ≠ .createClassInstance)
    (hglobal : python.globalCommands.contains command.commandType = true) :
    (Node.resolve spelling command = python.resolve spelling command ∧ ¬ Blank (python.resolve spelling command)) ↔
      resolveText (payloadAt command 0) 0 ≠ some [] := by
  have htext := trimmed_of_resolveText _ (Plain.payloadAt h 0) 0
  rw [Node.resolve_eq, Port.resolve, if_neg hmember, if_neg hmember, if_neg hnew, if_neg hnew, if_pos hglobal,
    if_pos hglobal, Node.resolveText_eq _ (Plain.payloadAt h 0)]
  cases hname : resolveText (payloadAt command 0) 0 with
  | none => simp [not_blank_fallback]
  | some name =>
    cases name with
    | nil => simp [Blank]
    | cons c rest => simpa using not_blank_of_trimmed (htext _ hname) (List.cons_ne_nil c rest)

theorem not_special_of_member {commandType : CommandType} (h : python.memberCommands.contains commandType = true) :
    commandType ≠ .createClassInstance ∧ python.globalCommands.contains commandType = false := by
  have hall :
      python.memberCommands.all (fun t => t != .createClassInstance && !python.globalCommands.contains t) = true := by
    decide
  simpa using List.all_eq_true.1 hall commandType (List.contains_iff_mem.1 h)

/-- **The four ports give one name that is not blank** exactly when no empty string stands for the name of a global or for
the type of a constructor. -/
theorem names_agree_iff (command : Command) (h : ∀ item ∈ command.payload, Plain item) :
    NamesAgree command ↔ ¬ EmptyName command := by
  have hagree : NamesAgree command ↔ ∀ spelling,
      Node.resolve spelling command = python.resolve spelling command ∧ ¬ Blank (python.resolve spelling command) :=
    ⟨fun ha spelling => ⟨ha.node spelling, ha.nonblank spelling⟩,
      fun ha => ⟨alike_java.resolve h, alike_dotNet.resolve h, fun spelling => (ha spelling).1,
        fun spelling => (ha spelling).2⟩⟩
  have hconstructor : command.commandType = .createClassInstance →
      python.globalCommands.contains command.commandType = false := by
    intro hnew
    rw [hnew]
    rfl
  rw [hagree, emptyName_iff h, ← List.contains_iff_mem]
  by_cases hmember : python.memberCommands.contains command.commandType = true
  · obtain ⟨hnew, hglobal⟩ := not_special_of_member hmember
    simp only [hnew, hglobal, false_and, or_self, not_false_eq_true, iff_true, Bool.false_eq_true]
    exact fun spelling => resolve_member h spelling hmember
  by_cases hnew : command.commandType = .createClassInstance
  · rw [hconstructor hnew]
    simp only [hnew, true_and, Bool.false_eq_true, false_and, false_or]
    exact ⟨fun ha => (resolve_constructor h (fun _ => []) hmember hnew).1.1 (ha fun _ => []).1,
      fun hne spelling => ⟨(resolve_constructor h spelling hmember hnew).1.2 hne,
        (resolve_constructor h spelling hmember hnew).2⟩⟩
  by_cases hglobal : python.globalCommands.contains command.commandType = true
  · simp only [hglobal, hnew, true_and, false_and, or_false]
    exact ⟨fun ha => (resolve_global h (fun _ => []) hmember hnew hglobal).1 (ha fun _ => []),
      fun hne spelling => (resolve_global h spelling hmember hnew hglobal).2 hne⟩
  · simp only [hglobal, hnew, Bool.false_eq_true, false_and, or_self, not_false_eq_true, iff_true]
    intro spelling
    rw [Node.resolve_eq, Port.resolve, if_neg hmember, if_neg hmember, if_neg hnew, if_neg hnew, if_neg hglobal,
      if_neg hglobal]
    exact ⟨rfl, not_blank_fallback spelling command⟩

theorem trimmed_of_all {s : Text} (h : (s.all fun c => !anySpace c) = true) : Trimmed s := by
  intro c hc
  have hmem : c ∈ s := hc.elim List.mem_of_mem_head? List.mem_of_mem_getLast?
  simpa using List.all_eq_true.1 h c hmem

theorem names_agree_add :
    NamesAgree ⟨.invokeStaticMethod, [.command .getType [.text "Basket".toList], .text "add".toList]⟩ := by
  refine (names_agree_iff _ ?_).2 ?_
  · intro item hitem
    rcases List.mem_cons.1 hitem with rfl | hitem
    · refine Plain.command fun leaf hleaf => ?_
      rw [List.mem_singleton.1 hleaf]
      exact Plain.text (trimmed_of_all (by decide))
    · rw [List.mem_singleton.1 hitem]
      exact Plain.text (trimmed_of_all (by decide))
  · rintro (⟨hglobal, -⟩ | ⟨hnew, -⟩)
    · revert hglobal
      decide
    · cases hnew

/-- The global function `""` is named by nothing in Python, and the instance of `""` is `.ctor` there and not in Node. -/
theorem not_names_agree_empty : Plain (.text []) ∧ ¬ NamesAgree ⟨.invokeGlobalFunction, [.text []]⟩ ∧
    ¬ NamesAgree ⟨.createClassInstance, [.text []]⟩ := by
  refine ⟨Plain.text (trimmed_of_all rfl), fun h => ?_, fun h => ?_⟩
  · apply h.nonblank fun _ => []
    intro c hc
    cases hc
  · have heq := h.node fun _ => []
    revert heq
    decide

end OperationName
end Graftcode
