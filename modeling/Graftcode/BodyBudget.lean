import Graftcode.BodyCapture
/-!
# BodyBudget — whether the text stays within its budget

A level of nesting costs 18 characters when it is cut and 2 when it ends, and each leaf stays within the reserve set aside
for it.  What has no reserve is the header of a nested command, and in Node a string cut before it is escaped.  `Fits` is
the account carried through the tree: what is written, and what closing the open levels still takes.  `payload_fits_iff`
says that the account comes out exactly when every header that is started fits.
-/
namespace Graftcode
namespace BodyCapture

/-! ## The account -/

/-- What closing the open levels takes after a value that was not cut: innermost first, `true` for a level that has more
items to write. -/
def closeCost : List Bool → Nat
  | []             => 0
  | true :: outer  => closingCostPerLevel * (outer.length + 1)
  | false :: outer => 2 + closeCost outer

/-- What closing the open levels takes; after a cut, each takes its marker. -/
def due (withinBudget : Bool) (levels : List Bool) : Nat :=
  if withinBudget then closeCost levels else closingCostPerLevel * levels.length

theorem closeCost_le : ∀ levels : List Bool, closeCost levels ≤ closingCostPerLevel * levels.length
  | []             => Nat.le_refl _
  | true :: outer  => Nat.le_refl _
  | false :: outer => by
    have ih := closeCost_le outer
    simp only [closeCost, List.length_cons, closingCostPerLevel] at ih ⊢
    omega

theorem due_le (withinBudget : Bool) (levels : List Bool) :
    due withinBudget levels ≤ closingCostPerLevel * levels.length := by
  unfold due
  split
  · exact closeCost_le levels
  · exact Nat.le_refl _

/-- What is written, with what closing takes, is within the budget. -/
def Fits (budget : Int) (written : Writer × Bool) (levels : List Bool) : Prop :=
  ((written.1.length + due written.2 levels : Nat) : Int) ≤ budget

/-- The header of a nested command leaves room for its marker, or for its end when it is empty. -/
def HeaderFits (budget : Int) (levels : List Bool) (runtimeName commandType : Units) (payload : List Item) (w : Writer) :
    Prop :=
  ((w.length + (header runtimeName commandType).length +
    (if payload.isEmpty then 2 + closeCost levels else 17 + closingCostPerLevel * levels.length) : Nat) : Int) ≤ budget

section Fitting

variable (r : Renderer) (budget : Int)
  (leafFits : (levels : List Bool) → (localBudget : Nat) → (forceRedact : Bool) → Leaf → Writer → Prop)

mutual

/-- Every command started in a value leaves room for its header, and every leaf fits. -/
def ValueFits (levels : List Bool) (localBudget : Nat) (forceRedact : Bool) : Item → Writer → Prop
  | .null, _                                    => True
  | .leaf leaf, w                               =>
    levels.length < maxDepth → leafFits levels localBudget forceRedact leaf w
  | .command runtimeName commandType payload, w => levels.length < maxDepth →
    HeaderFits budget levels runtimeName commandType payload w ∧
      PayloadFits levels false false payload (w.append (header runtimeName commandType))

/-- The values the loop of a command gets to. -/
def PayloadFits (levels : List Bool) (followsSensitiveKey hasContent : Bool) : List Item → Writer → Prop
  | [], _           => True
  | item :: rest, w => w.length < r.room levels.length →
    ValueFits ((!rest.isEmpty) :: levels) (r.room levels.length) followsSensitiveKey item (w.separate hasContent) ∧
      ((writeValue r (levels.length + 1) (r.room levels.length) followsSensitiveKey item (w.separate hasContent)).2 =
          true →
        PayloadFits levels (isKey r.isSensitiveKey item) true rest (writeValue r (levels.length + 1)
          (r.room levels.length) followsSensitiveKey item (w.separate hasContent)).1)

end

/-- Every nested command of a tree that is started leaves room for its header, and every leaf written fits. -/
def CommandFits (runtimeName commandType : Units) (payload : List Item) : Prop :=
  PayloadFits r budget leafFits [] false false payload (({} : Writer).append (header runtimeName commandType))

end Fitting

/-! ## The limits of a tree -/

/-- A number has up to 24 characters, and an array a length of its language. -/
def LeafWithinLimits : Leaf → Prop
  | .number _ printed => printed.length ≤ 24
  | .bytes length     => length < 2 ^ 63
  | _                 => True

mutual

/-- Every name has up to 32 characters, and every leaf is within limits. -/
def WithinLimits : Item → Prop
  | .null                                      => True
  | .leaf leaf                                 => LeafWithinLimits leaf
  | .command runtimeName commandType payload =>
    runtimeName.length ≤ 32 ∧ commandType.length ≤ 32 ∧ AllWithinLimits payload

def AllWithinLimits : List Item → Prop
  | []           => True
  | item :: rest => WithinLimits item ∧ AllWithinLimits rest

end

/-! ## The account comes out -/

/-- The local budget keeps the closing cost of its level and the reserve. -/
def KeepsReserve (r : Renderer) (budget : Int) : Prop :=
  ∀ depth, 0 < r.room depth →
    ((r.room depth + closingCostPerLevel * (depth + 1) + scalarReserve : Nat) : Int) ≤ budget

def LeafSpec (r : Renderer) (budget : Int)
    (leafFits : List Bool → Nat → Bool → Leaf → Writer → Prop) : Prop :=
  ∀ levels localBudget forceRedact leaf w, LeafWithinLimits leaf → w.length ≤ localBudget →
    ((localBudget + closingCostPerLevel * levels.length + scalarReserve : Nat) : Int) ≤ budget →
    (Fits budget (r.writeLeaf localBudget forceRedact leaf w) levels ↔ leafFits levels localBudget forceRedact leaf w)

theorem fits_of_reserve {budget : Int} {localBudget : Nat} (written : Writer × Bool) {levels : List Bool}
    (hb : ((localBudget + closingCostPerLevel * levels.length + scalarReserve : Nat) : Int) ≤ budget)
    (hw : written.1.length ≤ localBudget + scalarReserve) : Fits budget written levels := by
  have hd := due_le written.2 levels
  unfold Fits
  omega

theorem fits_marker {budget : Int} {localBudget : Nat} {levels : List Bool} {w : Writer} (hw : w.length ≤ localBudget)
    (hb : ((localBudget + closingCostPerLevel * levels.length + scalarReserve : Nat) : Int) ≤ budget) :
    Fits budget (w.truncate.append truncationMarker, true) levels := by
  apply fits_of_reserve _ hb
  have hmarker : truncationMarker.length = 15 := rfl
  simp only [Writer.length_append, Writer.length_truncate, hmarker, scalarReserve]
  omega

theorem length_separate (w : Writer) (hasContent : Bool) : (w.separate hasContent).length ≤ w.length + 1 := by
  cases hasContent
  · exact Nat.le_succ _
  · exact Nat.le_of_eq (Writer.length_append w _)

/-- What the loop needs when it is entered: room for its marker, or for its end when nothing is left to write. -/
def Entry (budget : Int) (levels : List Bool) (hasContent : Bool) (items : List Item) (w : Writer) : Prop :=
  ((w.length + (if items.isEmpty then 2 + closeCost levels
    else (if hasContent then 18 else 17) + closingCostPerLevel * levels.length) : Nat) : Int) ≤ budget

theorem length_close (withinBudget hasContent : Bool) (w : Writer) : (close withinBudget hasContent w).length =
    w.length + (if withinBudget then 2 else if hasContent then 18 else 17) := by
  cases withinBudget <;> cases hasContent <;> simp [close, truncationMarker, units]

theorem entry_rest {budget : Int} {levels : List Bool} {written : Writer × Bool} (rest : List Item)
    (hc : written.2 = true) :
    Entry budget levels true rest written.1 ↔ Fits budget written ((!rest.isEmpty) :: levels) := by
  unfold Entry Fits due
  rw [hc]
  cases rest with
  | nil => simp only [List.isEmpty_nil, if_true, Bool.not_true, closeCost]
  | cons item rest =>
    simp only [List.isEmpty_cons, Bool.false_eq_true, if_false, if_true, Bool.not_false, closeCost, closingCostPerLevel]
    rw [Nat.mul_add, Nat.add_comm 18]

theorem fits_cut {budget : Int} {levels : List Bool} {written : Writer × Bool} (more : Bool) (hc : written.2 = false) :
    Fits budget (close false true written.1, false) levels ↔ Fits budget written (more :: levels) := by
  unfold Fits due
  rw [hc]
  simp only [length_close, Bool.false_eq_true, if_false, if_true, List.length_cons, closingCostPerLevel]
  rw [Nat.mul_add, Nat.add_assoc, Nat.add_comm 18]

section Account

variable {r : Renderer} {budget : Int} {leafFits : List Bool → Nat → Bool → Leaf → Writer → Prop}

mutual

/-- **The account of a value.** -/
theorem value_fits_iff (hr : KeepsReserve r budget) (hl : LeafSpec r budget leafFits) : ∀ (item : Item),
    WithinLimits item → ∀ (levels : List Bool) (localBudget : Nat) (forceRedact : Bool) (w : Writer),
    w.length ≤ localBudget →
    ((localBudget + closingCostPerLevel * levels.length + scalarReserve : Nat) : Int) ≤ budget →
    (Fits budget (writeValue r levels.length localBudget forceRedact item w) levels ↔
      ValueFits r budget leafFits levels localBudget forceRedact item w)
  | .null, _, levels, localBudget, forceRedact, w, hw, hb => by
    rw [writeValue, ValueFits]
    refine iff_of_true (fits_of_reserve _ hb ?_) trivial
    have hnull : (units "null").length = 4 := rfl
    simp only [Writer.length_append, hnull, scalarReserve]
    omega
  | .leaf leaf, hs, levels, localBudget, forceRedact, w, hw, hb => by
    rw [writeValue, ValueFits]
    by_cases hd : maxDepth ≤ levels.length
    · rw [if_pos hd]
      exact iff_of_true (fits_marker hw hb) fun h => absurd hd (by omega)
    · rw [if_neg hd, hl levels localBudget forceRedact leaf w hs hw hb]
      exact ⟨fun h _ => h, fun h => h (by omega)⟩
  | .command runtimeName commandType payload, hs, levels, localBudget, forceRedact, w, hw, hb => by
    rw [writeValue, ValueFits]
    by_cases hd : maxDepth ≤ levels.length
    · rw [if_pos hd]
      exact iff_of_true (fits_marker hw hb) fun h => absurd hd (by omega)
    · rw [if_neg hd]
      have hp := payload_fits_iff hr hl payload hs.2.2 levels false false (w.append (header runtimeName commandType))
      refine hp.trans ?_
      have he : Entry budget levels false payload (w.append (header runtimeName commandType)) ↔
          HeaderFits budget levels runtimeName commandType payload w := by
        unfold Entry HeaderFits
        rw [Writer.length_append]
        simp only [Bool.false_eq_true, if_false]
      rw [he]
      exact ⟨fun h _ => h, fun h => h (by omega)⟩

/-- **The account of the loop of a command**, once it is closed. -/
theorem payload_fits_iff (hr : KeepsReserve r budget) (hl : LeafSpec r budget leafFits) : ∀ (items : List Item),
    AllWithinLimits items → ∀ (levels : List Bool) (followsSensitiveKey hasContent : Bool) (w : Writer),
    (Fits budget (close (writePayload r levels.length followsSensitiveKey hasContent items w).2.1
        (writePayload r levels.length followsSensitiveKey hasContent items w).2.2
        (writePayload r levels.length followsSensitiveKey hasContent items w).1,
      (writePayload r levels.length followsSensitiveKey hasContent items w).2.1) levels ↔
      Entry budget levels hasContent items w ∧
        PayloadFits r budget leafFits levels followsSensitiveKey hasContent items w)
  | [], _, levels, followsSensitiveKey, hasContent, w => by
    rw [writePayload, PayloadFits, and_true]
    unfold Fits Entry
    simp only [length_close, if_true, due, List.isEmpty_nil]
    rw [Nat.add_assoc]
  | item :: rest, hs, levels, followsSensitiveKey, hasContent, w => by
    rw [writePayload, PayloadFits]
    by_cases hroom : r.room levels.length ≤ w.length
    · rw [if_pos hroom, and_iff_left (fun h => absurd hroom (by omega))]
      unfold Fits Entry
      simp only [length_close, Bool.false_eq_true, if_false, due, List.isEmpty_cons, Writer.length_truncate]
      rw [Nat.add_assoc]
    · rw [if_neg hroom]
      have hreserve := hr levels.length (by omega)
      have hentry : Entry budget levels hasContent (item :: rest) w := by
        unfold Entry
        simp only [List.isEmpty_cons, Bool.false_eq_true, if_false]
        have h18 : (if hasContent = true then 18 else 17) ≤ 18 := by split <;> omega
        simp only [closingCostPerLevel, scalarReserve] at hreserve ⊢
        omega
      have hsep := length_separate w hasContent
      have hv := value_fits_iff hr hl item hs.1 ((!rest.isEmpty) :: levels) (r.room levels.length) followsSensitiveKey
        (w.separate hasContent) (by omega) (by rw [List.length_cons]; exact hreserve)
      rw [List.length_cons] at hv
      rw [and_iff_right hentry, ← hv, forall_prop_of_true (by omega)]
      generalize writeValue r (levels.length + 1) (r.room levels.length) followsSensitiveKey item
        (w.separate hasContent) = written
      dsimp only
      cases hc : written.2 with
      | true =>
        rw [if_pos rfl, payload_fits_iff hr hl rest hs.2, forall_prop_of_true rfl, entry_rest rest hc]
      | false =>
        rw [if_neg (by decide), and_iff_left nofun, fits_cut _ hc]

end

end Account

/-! ## Leaves -/

theorem length_unicodeEscape (unit : Nat) : (unicodeEscape unit).length = 6 := rfl

theorem length_escapeUnit (unit : Nat) : (escapeUnit unit).length ≤ 6 := by
  unfold escapeUnit
  split
  · decide
  split
  · decide
  split
  · decide
  split
  · decide
  split
  · decide
  split
  · exact Nat.le_of_eq (length_unicodeEscape unit)
  · exact Nat.le_add_left 1 5

/-- A string goes beyond the local budget by one escape and its quotes at most. -/
theorem length_writeCharacters (localBudget : Nat) : ∀ (value : Units) (w : Writer), w.length ≤ localBudget + 6 →
    (writeCharacters localBudget value w).1.length ≤ localBudget + 7
  | [], w, hw           => by
    rw [writeCharacters, Writer.length_append]
    exact Nat.succ_le_succ hw
  | unit :: rest, w, hw => by
    rw [writeCharacters]
    split
    · rw [Writer.length_append, Writer.length_truncate]
      exact Nat.succ_le_succ hw
    · apply length_writeCharacters localBudget rest _
      have he := length_escapeUnit unit
      rw [Writer.length_append]
      omega

theorem length_writeString {localBudget : Nat} (value : Option Units) {w : Writer} (hw : w.length ≤ localBudget) :
    (writeString localBudget value w).1.length ≤ localBudget + scalarReserve := by
  have hq : (units "\"").length = 1 := rfl
  unfold scalarReserve
  cases value with
  | none =>
    simp only [writeString, Writer.length_append, hq]
    omega
  | some value =>
    have h := length_writeCharacters localBudget value (w.append (units "\""))
      (by rw [Writer.length_append, hq]; omega)
    simp only [writeString]
    omega

theorem length_bytesText {length : Nat} (h : length < 2 ^ 63) : (bytesText length).length ≤ 29 := by
  have hdigits : (Nat.toDigits 10 length).length ≤ 19 :=
    (Nat.length_toDigits_le_iff (by decide) (by decide)).2 (by omega)
  have hopening : (units "\"[bytes:").length = 8 := rfl
  have hclosing : (units "]\"").length = 2 := rfl
  simp only [bytesText, List.length_append, List.length_map, hopening, hclosing]
  omega

theorem length_boolean (flag : Bool) : (units (if flag then "true" else "false")).length ≤ 5 := by
  cases flag <;> decide

theorem leafSpec_writeLeaf (redactor : LogsRedactor (Option Units)) (room : Nat → Nat) (budget : Int) :
    LeafSpec ⟨room, redactor.isSensitiveKey, writeLeaf redactor⟩ budget fun _ _ _ _ _ => True := by
  intro levels localBudget forceRedact leaf w hs hw hb
  refine iff_of_true (fits_of_reserve _ hb ?_) trivial
  show (writeLeaf redactor localBudget forceRedact leaf w).1.length ≤ localBudget + scalarReserve
  cases leaf with
  | text value => exact length_writeString _ hw
  | boolean flag =>
    have hf := length_boolean flag
    simp only [writeLeaf, Writer.length_append, scalarReserve]
    omega
  | number finite printed =>
    have hp : printed.length ≤ 24 := hs
    simp only [writeLeaf, Writer.length_append, scalarReserve]
    omega
  | bytes length =>
    have hl := length_bytesText (show length < 2 ^ 63 from hs)
    simp only [writeLeaf, Writer.length_append, scalarReserve]
    omega
  | other formatted => exact length_writeString _ hw

def nodeString (redactor : LogsRedactor Units) (forceRedact : Bool) (leaf : Leaf) : Option Units :=
  if forceRedact then some redactor.placeholder
  else match leaf with
  | .text value      => some (redactor.redactValue value)
  | .other formatted => some (redactor.redactValue (formatted.getD []))
  | _                => none

/-- A string that Node cuts still fits once it is escaped. -/
def NodeLeafFits (redactor : LogsRedactor Units) (budget : Int) (levels : List Bool) (localBudget : Nat)
    (forceRedact : Bool) (leaf : Leaf) (w : Writer) : Prop :=
  ∀ value, nodeString redactor forceRedact leaf = some value → localBudget < w.length + (stringify value).length →
    ((w.length + (stringify (value.take (localBudget - w.length - 2))).length +
      closingCostPerLevel * levels.length : Nat) : Int) ≤ budget

theorem fits_writeStringified {budget : Int} {levels : List Bool} {localBudget : Nat} (value : Units) {w : Writer}
    (hb : ((localBudget + closingCostPerLevel * levels.length + scalarReserve : Nat) : Int) ≤ budget) :
    Fits budget (writeStringified localBudget value w) levels ↔
      (localBudget < w.length + (stringify value).length →
        ((w.length + (stringify (value.take (localBudget - w.length - 2))).length +
          closingCostPerLevel * levels.length : Nat) : Int) ≤ budget) := by
  unfold writeStringified
  dsimp only
  split
  · rename_i h
    refine iff_of_true (fits_of_reserve _ hb ?_) fun h' => absurd h (by omega)
    rw [Writer.length_append]
    omega
  · rename_i h
    rw [forall_prop_of_true (by omega)]
    unfold Fits due
    simp only [Writer.length_append, Writer.length_truncate, Bool.false_eq_true, if_false]

theorem leafSpec_node (redactor : LogsRedactor Units) (budget maxLength : Int) :
    LeafSpec (node redactor maxLength) budget (NodeLeafFits redactor budget) := by
  intro levels localBudget forceRedact leaf w hs hw hb
  show Fits budget (writeLeafNode redactor localBudget forceRedact leaf w) levels ↔ _
  have hstring : ∀ value, nodeString redactor forceRedact leaf = some value →
      writeLeafNode redactor localBudget forceRedact leaf w = writeStringified localBudget value w →
      (Fits budget (writeLeafNode redactor localBudget forceRedact leaf w) levels ↔
        NodeLeafFits redactor budget levels localBudget forceRedact leaf w) := by
    intro value hv hwrite
    rw [hwrite, fits_writeStringified value hb]
    unfold NodeLeafFits
    simp only [hv, Option.some.injEq, forall_eq']
  have hplain : nodeString redactor forceRedact leaf = none →
      (writeLeafNode redactor localBudget forceRedact leaf w).1.length ≤ localBudget + scalarReserve →
      (Fits budget (writeLeafNode redactor localBudget forceRedact leaf w) levels ↔
        NodeLeafFits redactor budget levels localBudget forceRedact leaf w) := by
    intro hn hlen
    refine iff_of_true (fits_of_reserve _ hb hlen) fun value hv => ?_
    rw [hn] at hv
    cases hv
  cases forceRedact with
  | true => exact hstring _ rfl rfl
  | false =>
    cases leaf with
    | text value => exact hstring _ rfl rfl
    | other formatted => exact hstring _ rfl rfl
    | boolean flag =>
      apply hplain rfl
      have hf := length_boolean flag
      simp only [writeLeafNode, Bool.false_eq_true, if_false, Writer.length_append, scalarReserve]
      omega
    | number finite printed =>
      apply hplain rfl
      have hp : printed.length ≤ 24 := hs
      have hq : (units "\"").length = 1 := rfl
      cases finite <;>
        simp only [writeLeafNode, Bool.false_eq_true, if_false, if_true, Writer.length_append, List.length_append, hq,
          scalarReserve] <;> omega
    | bytes length =>
      apply hplain rfl
      have hl := length_bytesText (show length < 2 ^ 63 from hs)
      simp only [writeLeafNode, Bool.false_eq_true, if_false, Writer.length_append, scalarReserve]
      omega

/-! ## Exactly when the text stays within its budget -/

theorem keepsReserve_localBudget {r : Renderer} {budget : Int} (hr : r.room = localBudget budget) :
    KeepsReserve r budget := by
  intro depth hd
  rw [hr] at hd ⊢
  unfold localBudget at hd ⊢
  simp only [closingCostPerLevel, scalarReserve] at hd ⊢
  omega

theorem length_header (runtimeName commandType : Units) :
    (header runtimeName commandType).length = runtimeName.length + commandType.length + 35 := by
  simp [header, units]
  omega

theorem rendered_fits {r : Renderer} {budget : Int} {leafFits : List Bool → Nat → Bool → Leaf → Writer → Prop}
    (hr : r.room = localBudget budget) (hl : LeafSpec r budget leafFits) (hmin : 256 ≤ budget)
    {runtimeName commandType : Units} {payload : List Item}
    (hs : WithinLimits (.command runtimeName commandType payload)) :
    ((rendered r runtimeName commandType payload).length : Int) ≤ budget ↔
      CommandFits r budget leafFits runtimeName commandType payload := by
  obtain ⟨hn, ht, hp⟩ := hs
  have h := payload_fits_iff (keepsReserve_localBudget hr) hl payload hp [] false false
    (({} : Writer).append (header runtimeName commandType))
  have hentry : Entry budget [] false payload (({} : Writer).append (header runtimeName commandType)) := by
    have hheader := length_header runtimeName commandType
    have hempty : ({} : Writer).length = 0 := rfl
    unfold Entry
    rw [Writer.length_append, hempty]
    simp only [closeCost, List.length_nil, Bool.false_eq_true, if_false]
    split <;> omega
  rw [and_iff_right hentry] at h
  unfold CommandFits
  rw [← h]
  have hdue : ∀ withinBudget, due withinBudget [] = 0 := fun withinBudget => by cases withinBudget <;> rfl
  unfold Fits
  rw [hdue, Nat.add_zero]
  rfl

/-- **Within its budget**: with a limit from 256 on, the text of a tree within limits is no longer than the limit
exactly when every nested command that is started leaves room for its header, and in Node every string cut leaves room for
its escapes. -/
theorem rendered_within_budget_iff {runtimeName commandType : Units} {payload : List Item}
    (hs : WithinLimits (.command runtimeName commandType payload)) {maxCharacters : Int} (hmin : 256 ≤ maxCharacters) :
    (∀ redactor, ((renderPython redactor (some maxCharacters) runtimeName commandType payload).length : Int) ≤
        maxCharacters ↔
      CommandFits (python redactor (some maxCharacters)) maxCharacters (fun _ _ _ _ _ => True) runtimeName commandType
        payload) ∧
    (∀ redactor, ∃ w, renderJava redactor maxCharacters runtimeName commandType payload = some w ∧
      ((w.length : Int) ≤ maxCharacters ↔ CommandFits (jvm redactor maxCharacters) maxCharacters
        (fun _ _ _ _ _ => True) runtimeName commandType payload)) ∧
    (∀ redactor, ∃ w, renderDotnet redactor maxCharacters runtimeName commandType payload = some w ∧
      ((w.length : Int) ≤ maxCharacters ↔ CommandFits (jvm redactor maxCharacters) maxCharacters
        (fun _ _ _ _ _ => True) runtimeName commandType payload)) ∧
    ∀ redactor, ((renderNode redactor maxCharacters runtimeName commandType payload).length : Int) ≤ maxCharacters ↔
      CommandFits (node redactor maxCharacters) maxCharacters (NodeLeafFits redactor maxCharacters) runtimeName
        commandType payload := by
  have hlength : ¬maxCharacters < 0 := by omega
  refine ⟨fun redactor => ?_, fun redactor => ⟨_, if_neg hlength, ?_⟩, fun redactor => ⟨_, if_neg hlength, ?_⟩,
    fun redactor => ?_⟩
  · exact rendered_fits rfl (leafSpec_writeLeaf redactor _ maxCharacters) hmin hs
  · exact rendered_fits rfl (leafSpec_writeLeaf redactor _ maxCharacters) hmin hs
  · exact rendered_fits rfl (leafSpec_writeLeaf redactor _ maxCharacters) hmin hs
  · exact rendered_fits rfl (leafSpec_node redactor maxCharacters maxCharacters) hmin hs

def plainRedactor {Value : Type} : LogsRedactor Value := ⟨units "***", fun _ => false, id, some⟩

/-- A string of 159 characters, and a command behind it. -/
def lateCommand : List Item :=
  [.leaf (.text (List.replicate 159 'a'.toNat)), .command (units "Python") (units "InvokeStaticMethod") [.null]]

/-- A nested command with a string, and a string that is cut behind it. -/
def earlyCommand : List Item :=
  [.leaf (.text (units "name")), .command (units "Python") (units "InvokeStaticMethod") [.leaf (.text [34, 1]), .null],
    .leaf (.text (List.replicate 300 'a'.toNat))]

theorem rendered_within_budget_iff_nested : WithinLimits (.command (units "Jvm") (units "Invoke") earlyCommand) ∧
    ((renderPython plainRedactor (some 256) (units "Jvm") (units "Invoke") earlyCommand).length : Int) ≤ 256 := by
  have hs : WithinLimits (.command (units "Jvm") (units "Invoke") earlyCommand) :=
    ⟨by decide, by decide, trivial, ⟨by decide, by decide, trivial, trivial, trivial⟩, trivial, trivial⟩
  refine ⟨hs, ((rendered_within_budget_iff hs (by decide)).1 plainRedactor).2 fun _ => ⟨fun _ => trivial, fun _ => ?_⟩⟩
  refine fun _ => ⟨fun _ => ⟨?_, fun _ => ⟨fun _ => trivial, fun _ _ => ⟨trivial, fun _ => trivial⟩⟩⟩, fun _ _ => ?_⟩
  · unfold HeaderFits
    decide
  · exact ⟨fun _ => trivial, fun _ => trivial⟩

/-- The header of a command that is started just before the cut is written beyond the limit of 256. -/
theorem not_within_budget_lateCommand :
    256 < (renderPython plainRedactor (some 256) (units "Jvm") (units "Invoke") lateCommand).length ∧
      (∃ w, renderJava plainRedactor 256 (units "Jvm") (units "Invoke") lateCommand = some w ∧ 256 < w.length) ∧
      (∃ w, renderDotnet plainRedactor 256 (units "Jvm") (units "Invoke") lateCommand = some w ∧ 256 < w.length) ∧
      256 < (renderNode plainRedactor 256 (units "Jvm") (units "Invoke") lateCommand).length := by
  have hlate : 256 < (rendered (jvm plainRedactor 256) (units "Jvm") (units "Invoke") lateCommand).length := by
    decide +kernel
  exact ⟨hlate, ⟨_, rfl, hlate⟩, ⟨_, rfl, hlate⟩, by decide +kernel⟩

end BodyCapture
end Graftcode
