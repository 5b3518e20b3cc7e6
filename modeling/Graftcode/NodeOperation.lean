import Graftcode.OperationName
/-!
# NodeOperation — `resolveOperation.js` beside `operationName.js`

The name of a call's span comes from the first, the target in the library catalogue from the second.  `redactValue` is the
SDK's redactor, `commandTypeName` how it writes a command type.
-/
namespace Graftcode
namespace OperationName

/-- What `resolveOperation` returns. -/
structure Operation where
  name        : Text
  service     : Option Text
  method      : Text
  commandType : Text

namespace ResolveOperation

def MEMBER_COMMANDS : List CommandType :=
  [.invokeStaticMethod, .invokeInstanceMethod, .invokeGenericStaticMethod, .invokeGenericMethod, .getStaticField,
    .setStaticField, .getInstanceField, .setInstanceField, .getStaticMethodAsDelegate, .getInstanceMethodAsDelegate]

def TYPE_FROM_TARGET_COMMANDS : List CommandType :=
  [.createClassInstance, .setInstanceField, .invokeStaticMethod, .invokeInstanceMethod, .getStaticField,
    .getInstanceField]

/-- A string that is true: not undefined and not empty. -/
def truthy : Option Text → Bool
  | some (_ :: _) => true
  | _             => false

def resolveText : Item → Nat → Option Text
  | .text s, depth                      => if depth > MAX_DEPTH then none else Node.trimmed s
  | .command .value (item :: _), depth  => if depth > MAX_DEPTH then none else resolveText item (depth + 1)
  | _, _                                => none

/-- A command without payload has an undefined first argument. -/
def resolveTypeName : Item → Nat → Option Text
  | .text s, depth => if depth > MAX_DEPTH then none else Node.trimmed s
  | .command commandType (item :: rest), depth =>
    if depth > MAX_DEPTH then none
    else
      match commandType with
      | .value => resolveTypeName item (depth + 1)
      | .getType | .cast | .createNull =>
        (((item :: rest).map fun item => resolveText item (depth + 1)).find? truthy).join
      | _ =>
        if TYPE_FROM_TARGET_COMMANDS.contains commandType then resolveTypeName item (depth + 1) else none
  | _, _ => none

/-- The service and the method of a command, before they are redacted. -/
def serviceAndMethod (command : Command) : Option Text × Option Text :=
  if MEMBER_COMMANDS.contains command.commandType then
    (resolveTypeName (payloadAt command 0) 0, resolveText (payloadAt command 1) 0)
  else if command.commandType = .createClassInstance then
    let service := resolveTypeName (payloadAt command 0) 0
    (service, if truthy service then some "ctor".toList else none)
  else if command.commandType = .invokeGlobalFunction ∨ command.commandType = .getGlobalField then
    (none, resolveText (payloadAt command 0) 0)
  else (none, none)

def resolveOperation (redactValue : Text → Text) (commandTypeName : CommandType → Text) (command : Command) :
    Option Operation :=
  let (service, method) := serviceAndMethod command
  if !truthy method then none
  else
    let service := if truthy service then service.map redactValue else none
    let method := redactValue (method.getD [])
    some {
      name := if truthy service then service.getD [] ++ '.' :: method else method
      service
      method
      commandType := commandTypeName command.commandType }

/-! ## The two walks -/

theorem resolveText_eq (item : Item) (depth : Nat) : resolveText item depth = Node.resolveText item depth := by
  induction item using Item.inductionFirst generalizing depth with
  | null => rfl
  | text s => rfl
  | type name => rfl
  | object className => rfl
  | command commandType payload ih =>
    cases payload with
    | nil => cases commandType <;> rfl
    | cons item rest =>
      by_cases hv : commandType = .value
      · subst hv
        rw [resolveText, Node.resolveText]
        by_cases hd : depth > MAX_DEPTH
        · rw [if_pos hd, if_pos hd]
        · rw [if_neg hd, if_neg hd]
          exact ih (depth + 1)
      · cases commandType <;> first | rfl | exact absurd rfl hv

/-- Undefined, or a text that is neither empty nor blank. -/
def Clean (value : Option Text) : Prop := ∀ s, value = some s → truthy value = true ∧ Node.isBlank value = false

theorem clean_none : Clean none := by
  intro s hs
  cases hs

theorem clean_trimmed (s : Text) : Clean (Node.trimmed s) := by
  have htwice := Trimming.trim_trim (p := Tracing.Node.isSpace) s
  unfold Node.trimmed
  cases htrim : Trimming.trim Tracing.Node.isSpace s with
  | nil => exact clean_none
  | cons c rest =>
    rw [htrim] at htwice
    intro t ht
    simp [truthy, Node.isBlank, htwice]

/-- To such a value the tests of the two files say the same. -/
theorem Clean.isBlank {value : Option Text} (h : Clean value) : Node.isBlank value = !truthy value := by
  cases value with
  | none => rfl
  | some s => rw [(h s rfl).1, (h s rfl).2, Bool.not_true]

theorem clean_ite {P : Prop} [Decidable P] {value : Option Text} (h : ¬ P → Clean value) :
    Clean (if P then none else value) := by
  by_cases hP : P
  · rw [if_pos hP]
    exact clean_none
  · rw [if_neg hP]
    exact h hP

theorem clean_resolveText (item : Item) (depth : Nat) : Clean (Node.resolveText item depth) := by
  induction item using Item.inductionFirst generalizing depth with
  | null => exact clean_none
  | text s => exact clean_ite fun _ => clean_trimmed s
  | type name => exact clean_none
  | object className => exact clean_none
  | command commandType payload ih =>
    rw [Node.resolveText_command]
    by_cases h : depth ≤ MAX_DEPTH ∧ commandType = .value
    · rw [if_pos h]
      exact ih (depth + 1)
    · rw [if_neg h]
      exact clean_none

/-- The first name of a payload is the same to both tests. -/
theorem find?_clean : ∀ (names : List (Option Text)), (∀ name ∈ names, Clean name) →
    (names.find? fun name => !Node.isBlank name) = names.find? truthy
  | [], _ => rfl
  | name :: names, h => by
    have hname : (!Node.isBlank name) = truthy name := by
      rw [(h name List.mem_cons_self).isBlank, Bool.not_not]
    rw [List.find?_cons, List.find?_cons, hname, find?_clean names fun name hn => h name (List.mem_cons_of_mem _ hn)]

theorem clean_find? {names : List (Option Text)} (h : ∀ name ∈ names, Clean name) :
    Clean (names.find? truthy).join := by
  cases hfound : names.find? truthy with
  | none => exact clean_none
  | some name => exact h name (List.mem_of_find?_eq_some hfound)

theorem resolveTypeName_command (commandType : CommandType) (payload : List Item) (depth : Nat) :
    resolveTypeName (.command commandType payload) depth =
      if depth > MAX_DEPTH then none
      else if commandType = .value then resolveTypeName (payload.headD .null) (depth + 1)
      else if python.namedByPayload.contains commandType then
        ((payload.map fun item => resolveText item (depth + 1)).find? truthy).join
      else if python.typedByFirstPayload.contains commandType then
        resolveTypeName (payload.headD .null) (depth + 1)
      else none := by
  cases payload with
  | nil => simp [resolveTypeName]
  | cons item rest => cases commandType <;> rfl

theorem resolveTypeName_eq (item : Item) (depth : Nat) : resolveTypeName item depth = Node.resolveTypeNameCore item depth ∧
    Clean (Node.resolveTypeNameCore item depth) := by
  induction item using Item.inductionFirst generalizing depth with
  | null => exact ⟨rfl, clean_none⟩
  | text s => exact ⟨rfl, clean_ite fun _ => clean_trimmed s⟩
  | type name => exact ⟨rfl, clean_none⟩
  | object className => exact ⟨rfl, clean_none⟩
  | command commandType payload ih =>
    obtain ⟨hfirst, hclean⟩ := ih (depth + 1)
    have hnames : (payload.map fun item => resolveText item (depth + 1)) =
        payload.map fun item => Node.resolveText item (depth + 1) :=
      List.map_congr_left fun item _ => resolveText_eq item (depth + 1)
    have hall : ∀ name ∈ payload.map fun item => Node.resolveText item (depth + 1), Clean name := by
      intro name hname
      obtain ⟨item, -, rfl⟩ := List.mem_map.1 hname
      exact clean_resolveText item (depth + 1)
    rw [resolveTypeName_command, Node.resolveTypeNameCore_command, hfirst, hnames, find?_clean _ hall]
    refine ⟨rfl, clean_ite fun _ => ?_⟩
    by_cases hv : commandType = .value
    · rw [if_pos hv]
      exact hclean
    rw [if_neg hv]
    by_cases hn : python.namedByPayload.contains commandType = true
    · rw [if_pos hn]
      exact clean_find? hall
    rw [if_neg hn]
    by_cases ht : python.typedByFirstPayload.contains commandType = true
    · rw [if_pos ht]
      exact hclean
    · rw [if_neg ht]
      exact clean_none

/-! ## The names -/

/-- The name that `resolveOperation` gives a service and a method. -/
def nameOf (service method : Option Text) : Option Text :=
  if !truthy method then none
  else some (if truthy service then service.getD [] ++ '.' :: method.getD [] else method.getD [])

theorem name_resolveOperation (commandTypeName : CommandType → Text) (command : Command) :
    (resolveOperation id commandTypeName command).map Operation.name =
      nameOf (serviceAndMethod command).1 (serviceAndMethod command).2 := by
  simp only [resolveOperation, nameOf, id_eq]
  generalize serviceAndMethod command = both
  obtain ⟨service, method⟩ := both
  by_cases hmethod : truthy method = true
  · by_cases hservice : truthy service = true
    · simp [hmethod, hservice]
    · have hnone : truthy none = false := rfl
      simp [hmethod, hservice, hnone]
  · simp [hmethod]

theorem qualify_clean {typeName memberName : Option Text} (ht : Clean typeName) (hm : Clean memberName) :
    Node.qualify typeName memberName = nameOf typeName memberName := by
  rw [Node.qualify, nameOf, ht.isBlank, hm.isBlank]
  cases memberName with
  | none => rfl
  | some member => cases truthy typeName <;> rfl

theorem nameOf_none {method : Option Text} (h : Clean method) : nameOf none method = method := by
  cases method with
  | none => rfl
  | some name =>
    rw [nameOf, (h name rfl).1]
    rfl

theorem nameOf_ctor {service : Option Text} (h : Clean service) :
    nameOf service (if truthy service then some "ctor".toList else none) =
      service.map fun createdType => createdType ++ ".ctor".toList := by
  cases service with
  | none => rfl
  | some createdType =>
    rw [(h createdType rfl).1, if_pos rfl, nameOf, (h createdType rfl).1]
    rfl

end ResolveOperation

open ResolveOperation

/-- **The two resolvers of Node agree**: the name of a call is the one that `resolveOperation` gives it, or the fallback. -/
theorem name_resolveOperation_eq (spelling commandTypeName : CommandType → Text) (command : Command) :
    ((resolveOperation id commandTypeName command).map Operation.name).getD (fallback spelling command) =
      Node.resolve spelling command := by
  rw [name_resolveOperation, Node.resolve_eq, serviceAndMethod]
  have hmembers : MEMBER_COMMANDS = python.memberCommands := rfl
  have htext := clean_resolveText (payloadAt command 0) 0
  obtain ⟨htype, hclean⟩ := resolveTypeName_eq (payloadAt command 0) 0
  rw [hmembers, htype, resolveText_eq, resolveText_eq]
  by_cases hmember : python.memberCommands.contains command.commandType = true
  · rw [if_pos hmember, if_pos hmember, qualify_clean hclean (clean_resolveText _ 0)]
  rw [if_neg hmember, if_neg hmember]
  by_cases hnew : command.commandType = .createClassInstance
  · rw [if_pos hnew, if_pos hnew]
    dsimp only
    rw [nameOf_ctor hclean]
    cases Node.resolveTypeNameCore (payloadAt command 0) 0 <;> rfl
  rw [if_neg hnew, if_neg hnew]
  have hglobals : (command.commandType = .invokeGlobalFunction ∨ command.commandType = .getGlobalField) ↔
      python.globalCommands.contains command.commandType = true := by
    rw [List.contains_iff_mem]
    simp [python]
  by_cases hglobal : python.globalCommands.contains command.commandType = true
  · rw [if_pos (hglobals.2 hglobal), if_pos hglobal, nameOf_none htext]
  · rw [if_neg fun h => hglobal (hglobals.1 h), if_neg hglobal]
    rfl

end OperationName
end Graftcode
