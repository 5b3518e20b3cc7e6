import Graftcode.BodyCapture
/-!
# BodyTruncation — what the truncation flag says of the text

`itemText` is the text of an item with nothing left out, cut or replaced by a marker.  A writer whose flag stays down has
written it, and the flag stays down where the text, with what closing the deepest command is reckoned at, is within the
budget and no item lies too deep.
-/
namespace Graftcode
namespace BodyCapture

/-! ## The text without a budget -/

section Text

variable (isSensitiveKey : Units → Bool) (leafText : (forceRedact : Bool) → Leaf → Units)

mutual

def itemText (forceRedact : Bool) : Item → Units
  | .null                                    => units "null"
  | .leaf leaf                               => leafText forceRedact leaf
  | .command runtimeName commandType payload =>
    header runtimeName commandType ++ payloadText false false payload ++ units "]\x7d"

def payloadText : (followsSensitiveKey hasContent : Bool) → List Item → Units
  | _, _, []                                     => []
  | followsSensitiveKey, hasContent, item :: rest =>
    (if hasContent then units "," else []) ++ itemText followsSensitiveKey item ++
      payloadText (isKey isSensitiveKey item) true rest

end

end Text

mutual

/-- Every item of a payload below an item at a depth lies at a smaller depth than the limit. -/
def Below (limit depth : Nat) : Item → Prop
  | .null                => True
  | .leaf _              => True
  | .command _ _ payload => AllBelow limit (depth + 1) payload

/-- Items at a depth, and those below them, lie at a smaller depth than the limit. -/
def AllBelow (limit depth : Nat) : List Item → Prop
  | []           => True
  | item :: rest => depth < limit ∧ Below limit depth item ∧ AllBelow limit depth rest

end

mutual

/-- The largest depth of a command in an item at a depth, or of the command the item belongs to. -/
def deepestIn (depth : Nat) : Item → Nat
  | .null                => depth - 1
  | .leaf _              => depth - 1
  | .command _ _ payload => deepest depth payload

/-- The largest depth of a command at a depth and those in its payload. -/
def deepest (depth : Nat) : List Item → Nat
  | []           => depth
  | item :: rest => max (deepestIn (depth + 1) item) (deepest depth rest)

end

theorem le_deepest (depth : Nat) : ∀ items : List Item, depth ≤ deepest depth items
  | []        => Nat.le_refl _
  | _ :: rest => Nat.le_trans (le_deepest depth rest) (Nat.le_max_right ..)

/-! ## Writing the whole text -/

/-- A renderer writes a leaf whole when its flag stays down, and where the leaf ends within the local budget. -/
structure WritesWhole (r : Renderer) (leafText : Bool → Leaf → Units) : Prop where
  untruncated : ∀ localBudget forceRedact leaf w, (r.writeLeaf localBudget forceRedact leaf w).1.truncated = false →
    r.writeLeaf localBudget forceRedact leaf w = (w.append (leafText forceRedact leaf), true)
  within : ∀ localBudget forceRedact leaf w, w.length + (leafText forceRedact leaf).length ≤ localBudget →
    r.writeLeaf localBudget forceRedact leaf w = (w.append (leafText forceRedact leaf), true)

theorem append_append (w : Writer) (text more : Units) : (w.append text).append more = w.append (text ++ more) := by
  simp only [Writer.append, List.append_assoc]

theorem append_nil (w : Writer) : w.append [] = w := by
  simp only [Writer.append, List.append_nil]

theorem separate_eq (w : Writer) (hasContent : Bool) :
    w.separate hasContent = w.append (if hasContent then units "," else []) := by
  cases hasContent
  · exact (append_nil w).symm
  · rfl

theorem truncated_close (withinBudget hasContent : Bool) (w : Writer) :
    (close withinBudget hasContent w).truncated = w.truncated := by
  unfold close
  split <;> rfl

section Whole

variable {r : Renderer} {leafText : Bool → Leaf → Units}

mutual

/-- **A value under a flag that stays down** is written whole. -/
theorem value_untruncated (hr : WritesWhole r leafText) : ∀ (item : Item) (depth localBudget : Nat) (forceRedact : Bool)
    (w : Writer), (writeValue r depth localBudget forceRedact item w).1.truncated = false →
      writeValue r depth localBudget forceRedact item w =
        (w.append (itemText r.isSensitiveKey leafText forceRedact item), true)
  | .null, depth, localBudget, forceRedact, w, _ => by rw [writeValue, itemText]
  | .leaf leaf, depth, localBudget, forceRedact, w, h => by
    rw [writeValue] at h ⊢
    by_cases hd : maxDepth ≤ depth
    · rw [if_pos hd] at h
      cases h
    · rw [if_neg hd] at h ⊢
      rw [itemText]
      exact hr.untruncated localBudget forceRedact leaf w h
  | .command runtimeName commandType payload, depth, localBudget, forceRedact, w, h => by
    rw [writeValue] at h ⊢
    by_cases hd : maxDepth ≤ depth
    · rw [if_pos hd] at h
      cases h
    · rw [if_neg hd] at h ⊢
      dsimp only at h
      rw [truncated_close] at h
      obtain ⟨hasContent, hp⟩ := payload_untruncated hr payload depth false false _ h
      dsimp only
      rw [hp, itemText, append_append]
      exact congrArg (·, true) (append_append w _ _)

/-- **A payload under a flag that stays down** is written whole. -/
theorem payload_untruncated (hr : WritesWhole r leafText) : ∀ (items : List Item) (depth : Nat)
    (followsSensitiveKey hasContent : Bool) (w : Writer),
    (writePayload r depth followsSensitiveKey hasContent items w).1.truncated = false →
      ∃ hasContent', writePayload r depth followsSensitiveKey hasContent items w =
        (w.append (payloadText r.isSensitiveKey leafText followsSensitiveKey hasContent items), true, hasContent')
  | [], depth, followsSensitiveKey, hasContent, w, _ => by
    refine ⟨hasContent, ?_⟩
    rw [writePayload, payloadText, append_nil]
  | item :: rest, depth, followsSensitiveKey, hasContent, w, h => by
    rw [writePayload] at h ⊢
    by_cases hroom : r.room depth ≤ w.length
    · rw [if_pos hroom] at h
      cases h
    · rw [if_neg hroom] at h ⊢
      have hv := value_untruncated hr item (depth + 1) (r.room depth) followsSensitiveKey (w.separate hasContent)
      generalize writeValue r (depth + 1) (r.room depth) followsSensitiveKey item (w.separate hasContent) = written
        at h hv ⊢
      dsimp only at h ⊢
      cases hc : written.2 with
      | true =>
        rw [hc, if_pos rfl] at h
        rw [if_pos rfl]
        obtain ⟨hasContent', hp⟩ := payload_untruncated hr rest depth (isKey r.isSensitiveKey item) true written.1 h
        rw [hp] at h
        have hwritten := hv h
        refine ⟨hasContent', ?_⟩
        rw [hp, hwritten, payloadText, separate_eq, append_append, append_append, List.append_assoc]
      | false =>
        rw [hc, if_neg Bool.false_ne_true] at h
        rw [hv h] at hc
        cases hc

end

mutual

/-- **A value that ends within every budget** of the tree, and lies nowhere too deep, is written whole. -/
theorem value_within (hr : WritesWhole r leafText) {most bound : Nat} (hroom : ∀ depth ≤ most, bound ≤ r.room depth) :
    ∀ (item : Item) (depth localBudget : Nat) (forceRedact : Bool) (w : Writer), depth < maxDepth →
      Below maxDepth depth item → deepestIn depth item ≤ most → bound ≤ localBudget →
      w.length + (itemText r.isSensitiveKey leafText forceRedact item).length ≤ bound →
        writeValue r depth localBudget forceRedact item w =
          (w.append (itemText r.isSensitiveKey leafText forceRedact item), true)
  | .null, depth, localBudget, forceRedact, w, _, _, _, _, _ => by rw [writeValue, itemText]
  | .leaf leaf, depth, localBudget, forceRedact, w, hdepth, _, _, hlocal, hfits => by
    rw [itemText] at hfits ⊢
    rw [writeValue, if_neg (Nat.not_le.2 hdepth)]
    exact hr.within localBudget forceRedact leaf w (Nat.le_trans hfits hlocal)
  | .command runtimeName commandType payload, depth, localBudget, forceRedact, w, hdepth, hbelow, hdeep, _, hfits => by
    rw [itemText] at hfits ⊢
    rw [writeValue, if_neg (Nat.not_le.2 hdepth)]
    have hend : (units "]\x7d").length = 2 := rfl
    rw [List.length_append, List.length_append, hend] at hfits
    obtain ⟨hasContent, hp⟩ := payload_within hr hroom payload depth false false (w.append (header runtimeName commandType))
      hbelow hdeep (by rw [Writer.length_append]; omega)
    dsimp only
    rw [hp, append_append]
    exact congrArg (·, true) (append_append w _ _)

/-- **A payload that ends within every budget**, with the end of its command, is written whole. -/
theorem payload_within (hr : WritesWhole r leafText) {most bound : Nat} (hroom : ∀ depth ≤ most, bound ≤ r.room depth) :
    ∀ (items : List Item) (depth : Nat) (followsSensitiveKey hasContent : Bool) (w : Writer),
      AllBelow maxDepth (depth + 1) items → deepest depth items ≤ most →
      w.length + (payloadText r.isSensitiveKey leafText followsSensitiveKey hasContent items).length + 2 ≤ bound →
        ∃ hasContent', writePayload r depth followsSensitiveKey hasContent items w =
          (w.append (payloadText r.isSensitiveKey leafText followsSensitiveKey hasContent items), true, hasContent')
  | [], depth, followsSensitiveKey, hasContent, w, _, _, _ => by
    refine ⟨hasContent, ?_⟩
    rw [writePayload, payloadText, append_nil]
  | item :: rest, depth, followsSensitiveKey, hasContent, w, hbelow, hdeep, hfits => by
    obtain ⟨hdepth, hitem, hrest⟩ := hbelow
    have hdeeper := Nat.max_le.1 hdeep
    have hbound : bound ≤ r.room depth := hroom depth (Nat.le_trans (le_deepest depth rest) hdeeper.2)
    rw [payloadText, List.length_append, List.length_append] at hfits
    have hv := value_within hr hroom item (depth + 1) (r.room depth) followsSensitiveKey (w.separate hasContent) hdepth
      hitem hdeeper.1 hbound (by rw [separate_eq, Writer.length_append]; omega)
    rw [separate_eq, append_append] at hv
    obtain ⟨hasContent', hp⟩ := payload_within hr hroom rest depth (isKey r.isSensitiveKey item) true
      (w.append ((if hasContent then units "," else []) ++ itemText r.isSensitiveKey leafText followsSensitiveKey item))
      hrest hdeeper.2 (by rw [Writer.length_append, List.length_append]; omega)
    refine ⟨hasContent', ?_⟩
    rw [writePayload, if_neg (by omega), separate_eq]
    dsimp only
    rw [hv, if_pos rfl, hp, append_append, payloadText]

end

/-- The text of a command, with nothing left out. -/
def commandText (isSensitiveKey : Units → Bool) (leafText : Bool → Leaf → Units) (runtimeName commandType : Units)
    (payload : List Item) : Units :=
  itemText isSensitiveKey leafText false (.command runtimeName commandType payload)

theorem rendered_untruncated (hr : WritesWhole r leafText) {runtimeName commandType : Units} {payload : List Item}
    (h : (rendered r runtimeName commandType payload).truncated = false) :
    (rendered r runtimeName commandType payload).out =
      commandText r.isSensitiveKey leafText runtimeName commandType payload := by
  have hwrite := writeValue_command r (by decide : 0 < maxDepth) 0 false runtimeName commandType payload {}
  rw [rendered, ← hwrite] at h ⊢
  rw [value_untruncated hr _ _ _ _ _ h]
  rfl

theorem rendered_within (hr : WritesWhole r leafText) {runtimeName commandType : Units} {payload : List Item}
    (hbelow : AllBelow maxDepth 1 payload)
    (hfits : ∀ depth ≤ deepest 0 payload,
      (commandText r.isSensitiveKey leafText runtimeName commandType payload).length ≤ r.room depth) :
    (rendered r runtimeName commandType payload).truncated = false := by
  have hwrite := writeValue_command r (by decide : 0 < maxDepth) (r.room 0) false runtimeName commandType payload {}
  have hwhole := value_within hr hfits (.command runtimeName commandType payload) 0 (r.room 0) false {} (by decide) hbelow
    (Nat.le_refl _) (hfits 0 (Nat.zero_le _)) (Nat.le_of_eq (Nat.zero_add _))
  rw [rendered, ← hwrite, hwhole]
  rfl

end Whole

/-! ## The leaves -/

/-- A string between its quotes; null is an empty one. -/
def stringText (value : Option Units) : Units := units "\"" ++ (value.getD []).flatMap escapeUnit ++ units "\""

def leafText (redactor : LogsRedactor (Option Units)) (forceRedact : Bool) : Leaf → Units
  | .text value       => stringText (if forceRedact then some redactor.placeholder else redactor.redactValue (some value))
  | .boolean flag     => units (if flag then "true" else "false")
  | .number _ printed => printed
  | .bytes length     => bytesText length
  | .other formatted  => stringText (if forceRedact then some redactor.placeholder else redactor.redactValue formatted)

theorem writeCharacters_untruncated (localBudget : Nat) : ∀ (value : Units) (w : Writer),
    (writeCharacters localBudget value w).1.truncated = false →
      writeCharacters localBudget value w = (w.append (value.flatMap escapeUnit ++ units "\""), true)
  | [], w, _ => rfl
  | unit :: rest, w, h => by
    rw [writeCharacters] at h ⊢
    by_cases hroom : localBudget ≤ w.length
    · rw [if_pos hroom] at h
      cases h
    · rw [if_neg hroom] at h ⊢
      rw [writeCharacters_untruncated localBudget rest _ h, append_append, List.flatMap_cons, List.append_assoc]

theorem writeCharacters_within (localBudget : Nat) : ∀ (value : Units) (w : Writer),
    w.length + (value.flatMap escapeUnit).length + 1 ≤ localBudget →
      writeCharacters localBudget value w = (w.append (value.flatMap escapeUnit ++ units "\""), true)
  | [], w, _ => rfl
  | unit :: rest, w, hfits => by
    rw [List.flatMap_cons, List.length_append] at hfits
    rw [writeCharacters, if_neg (by omega),
      writeCharacters_within localBudget rest _ (by rw [Writer.length_append]; omega), append_append, List.flatMap_cons,
      List.append_assoc]

theorem writeString_untruncated {localBudget : Nat} {value : Option Units} {w : Writer}
    (h : (writeString localBudget value w).1.truncated = false) :
    writeString localBudget value w = (w.append (stringText value), true) := by
  cases value with
  | none =>
    rw [writeString, append_append]
    rfl
  | some value =>
    rw [writeString] at h ⊢
    rw [writeCharacters_untruncated localBudget value _ h, append_append, ← List.append_assoc]
    rfl

theorem writeString_within {localBudget : Nat} {value : Option Units} {w : Writer}
    (hfits : w.length + (stringText value).length ≤ localBudget) :
    writeString localBudget value w = (w.append (stringText value), true) := by
  cases value with
  | none =>
    rw [writeString, append_append]
    rfl
  | some value =>
    have hquote : (units "\"").length = 1 := rfl
    simp only [stringText, Option.getD_some, List.length_append, hquote] at hfits
    rw [writeString, writeCharacters_within localBudget value _ (by rw [Writer.length_append, hquote]; omega),
      append_append, ← List.append_assoc]
    rfl

theorem writesWhole_writeLeaf (redactor : LogsRedactor (Option Units)) (room : Nat → Nat) :
    WritesWhole ⟨room, redactor.isSensitiveKey, writeLeaf redactor⟩ (leafText redactor) where
  untruncated := by
    intro localBudget forceRedact leaf w h
    cases leaf with
    | text value => exact writeString_untruncated h
    | other formatted => exact writeString_untruncated h
    | boolean flag => rfl
    | number finite printed => rfl
    | bytes length => rfl
  within := by
    intro localBudget forceRedact leaf w hfits
    cases leaf with
    | text value => exact writeString_within hfits
    | other formatted => exact writeString_within hfits
    | boolean flag => rfl
    | number finite printed => rfl
    | bytes length => rfl

def leafTextNode (redactor : LogsRedactor Units) (forceRedact : Bool) (leaf : Leaf) : Units :=
  if forceRedact then stringify redactor.placeholder
  else match leaf with
  | .text value            => stringify (redactor.redactValue value)
  | .boolean flag          => units (if flag then "true" else "false")
  | .number finite printed => if finite then printed else units "\"" ++ printed ++ units "\""
  | .bytes length          => bytesText length
  | .other formatted       => stringify (redactor.redactValue (formatted.getD []))

theorem writeStringified_untruncated {localBudget : Nat} {value : Units} {w : Writer}
    (h : (writeStringified localBudget value w).1.truncated = false) :
    writeStringified localBudget value w = (w.append (stringify value), true) := by
  unfold writeStringified at h ⊢
  dsimp only at h ⊢
  split at h
  · rename_i hfits
    exact if_pos hfits
  · cases h

theorem writeStringified_within {localBudget : Nat} {value : Units} {w : Writer}
    (hfits : w.length + (stringify value).length ≤ localBudget) :
    writeStringified localBudget value w = (w.append (stringify value), true) := if_pos hfits

theorem writesWhole_node (redactor : LogsRedactor Units) (maxLength : Int) :
    WritesWhole (node redactor maxLength) (leafTextNode redactor) where
  untruncated := by
    intro localBudget forceRedact leaf w h
    cases forceRedact with
    | true => exact writeStringified_untruncated h
    | false =>
      cases leaf with
      | text value => exact writeStringified_untruncated h
      | other formatted => exact writeStringified_untruncated h
      | boolean flag => rfl
      | number finite printed => rfl
      | bytes length => rfl
  within := by
    intro localBudget forceRedact leaf w hfits
    cases forceRedact with
    | true => exact writeStringified_within hfits
    | false =>
      cases leaf with
      | text value => exact writeStringified_within hfits
      | other formatted => exact writeStringified_within hfits
      | boolean flag => rfl
      | number finite printed => rfl
      | bytes length => rfl

/-! ## The flag -/

/-- No item lies too deep, and the text leaves room for what closing the deepest command is reckoned at. -/
def FitsBudget (budget : Int) (payload : List Item) (text : Units) : Prop :=
  AllBelow maxDepth 1 payload ∧
    (text.length : Int) ≤ budget - closingCostPerLevel * (deepest 0 payload + 1) - scalarReserve

/-- The flag is down only over the whole text, and is down when the whole text fits. -/
def FlagFaithful (w : Writer) (text : Units) (fits : Prop) : Prop :=
  (w.truncated = false → w.out = text) ∧ (fits → w.truncated = false ∧ w.out = text)

theorem flagFaithful_of_budget {r : Renderer} {leafText : Bool → Leaf → Units} (hr : WritesWhole r leafText) {budget : Int}
    (hroom : r.room = localBudget budget) {runtimeName commandType : Units} {payload : List Item} :
    FlagFaithful (rendered r runtimeName commandType payload)
      (commandText r.isSensitiveKey leafText runtimeName commandType payload)
      (FitsBudget budget payload (commandText r.isSensitiveKey leafText runtimeName commandType payload)) := by
  refine ⟨rendered_untruncated hr, ?_⟩
  rintro ⟨hbelow, hfits⟩
  have hdown : (rendered r runtimeName commandType payload).truncated = false := by
    apply rendered_within hr hbelow
    intro depth hdepth
    rw [hroom]
    simp only [localBudget, closingCostPerLevel, scalarReserve] at hfits ⊢
    omega
  exact ⟨hdown, rendered_untruncated hr hdown⟩

/-- **The truncation flag is faithful** for every tree and every limit; without a limit, up to the 2³⁰ characters that
stand in for one. -/
theorem flag_faithful (redactor : LogsRedactor (Option Units)) (maxCharacters : Option Int)
    (runtimeName commandType : Units) (payload : List Item) :
    FlagFaithful (renderPython redactor maxCharacters runtimeName commandType payload)
      (commandText redactor.isSensitiveKey (leafText redactor) runtimeName commandType payload)
      (match maxCharacters with
        | none        => AllBelow maxDepth 1 payload ∧
            (commandText redactor.isSensitiveKey (leafText redactor) runtimeName commandType payload).length ≤ 2 ^ 30
        | some budget => FitsBudget budget payload
            (commandText redactor.isSensitiveKey (leafText redactor) runtimeName commandType payload)) := by
  cases maxCharacters with
  | some budget => exact flagFaithful_of_budget (writesWhole_writeLeaf redactor _) rfl
  | none =>
    have hr := writesWhole_writeLeaf redactor fun _ => 2 ^ 30
    refine ⟨rendered_untruncated hr, ?_⟩
    rintro ⟨hbelow, hfits⟩
    have hdown := rendered_within hr hbelow fun _ _ => hfits
    exact ⟨hdown, rendered_untruncated hr hdown⟩

/-- Two arguments, one of them a command. -/
def nestedPayload : List Item :=
  [.leaf (.text (units "a\"b")), .command (units "Jvm") (units "Value") [.leaf (.number true (units "1")), .null]]

def trustingRedactor : LogsRedactor (Option Units) := ⟨units "***", fun _ => false, id, some⟩

theorem flag_faithful_nested :
    (renderPython trustingRedactor (some 256) (units "Jvm") (units "Invoke") nestedPayload).truncated = false ∧
      (renderPython trustingRedactor (some 256) (units "Jvm") (units "Invoke") nestedPayload).out =
        commandText (fun _ => false) (leafText trustingRedactor) (units "Jvm") (units "Invoke") nestedPayload := by
  apply (flag_faithful trustingRedactor (some 256) (units "Jvm") (units "Invoke") nestedPayload).2
  constructor
  · exact ⟨by decide, trivial, by decide, ⟨by decide, trivial, by decide, trivial, trivial⟩, trivial⟩
  · decide +kernel

/-- The same of the other three runtimes. -/
theorem flag_faithful_elsewhere (maxCharacters : Int) (runtimeName commandType : Units) (payload : List Item) :
    (∀ redactor w, renderJava redactor maxCharacters runtimeName commandType payload = some w ∨
        renderDotnet redactor maxCharacters runtimeName commandType payload = some w →
      FlagFaithful w (commandText redactor.isSensitiveKey (leafText redactor) runtimeName commandType payload)
        (FitsBudget maxCharacters payload
          (commandText redactor.isSensitiveKey (leafText redactor) runtimeName commandType payload))) ∧
    ∀ redactor, FlagFaithful (renderNode redactor maxCharacters runtimeName commandType payload)
      (commandText redactor.isSensitiveKey (leafTextNode redactor) runtimeName commandType payload)
      (FitsBudget maxCharacters payload
        (commandText redactor.isSensitiveKey (leafTextNode redactor) runtimeName commandType payload)) := by
  refine ⟨fun redactor w hw => ?_, fun redactor => flagFaithful_of_budget (writesWhole_node redactor _) rfl⟩
  have hrendered : w = rendered (jvm redactor maxCharacters) runtimeName commandType payload := by
    unfold renderJava renderDotnet at hw
    split at hw
    · rcases hw with hw | hw <;> cases hw
    · rcases hw with hw | hw <;> exact (Option.some.inj hw).symm
  rw [hrendered]
  exact flagFaithful_of_budget (writesWhole_writeLeaf redactor _) rfl

end BodyCapture
end Graftcode
