import Graftcode.BodyJson
/-!
# BodySecrets — what follows a sensitive name

Two trees that differ only in what follows a sensitive name are rendered alike exactly if each two leaves that are reached
in the same place show the same.  In Node no leaf behind a sensitive name shows anything.  In the other three strings and
objects do not; a boolean, a number and the length of a byte array bypass the redaction, whatever stands before them.
-/
namespace Graftcode
namespace BodyCapture

open Delimited (Stops)

section Alike

variable (isSensitiveKey : Units → Bool)

mutual

/-- Items that are equal but for leaves that follow a sensitive name and are none themselves. -/
def Alike (followsSensitiveKey : Bool) : Item → Item → Prop
  | .null, item'                                     => item' = .null
  | .leaf leaf, item'                                => item' = .leaf leaf ∨ followsSensitiveKey = true ∧ ∃ leaf',
      item' = .leaf leaf' ∧ isKey isSensitiveKey (.leaf leaf) = false ∧ isKey isSensitiveKey (.leaf leaf') = false
  | .command runtimeName commandType payload, item' =>
    ∃ payload', item' = .command runtimeName commandType payload' ∧ AllAlike false payload payload'

def AllAlike (followsSensitiveKey : Bool) : List Item → List Item → Prop
  | [], items'           => items' = []
  | item :: rest, items' => ∃ item' rest', items' = item' :: rest' ∧ Alike followsSensitiveKey item item' ∧
      AllAlike (isKey isSensitiveKey item) rest rest'

end

end Alike

theorem isKey_alike {isSensitiveKey : Units → Bool} {followsSensitiveKey : Bool} {item item' : Item}
    (h : Alike isSensitiveKey followsSensitiveKey item item') : isKey isSensitiveKey item' = isKey isSensitiveKey item := by
  cases item with
  | null => rw [Alike] at h; rw [h]
  | leaf leaf =>
    rw [Alike] at h
    rcases h with rfl | ⟨-, leaf', rfl, hk, hk'⟩
    · rfl
    · rw [hk, hk']
  | command runtimeName commandType payload =>
    rw [Alike] at h
    obtain ⟨payload', rfl, -⟩ := h
    rfl

section Pairs

variable (r : Renderer)

mutual

/-- The leaves that are reached in an item, each with the leaf in its place in another item. -/
def valuePairs (depth : Nat) : Item → Item → Writer → List (Leaf × Leaf)
  | .null, _, _                                        => []
  | .leaf leaf, item', _                               =>
    if maxDepth ≤ depth then []
    else match item' with
      | .leaf leaf' => [(leaf, leaf')]
      | _           => []
  | .command runtimeName commandType payload, item', w =>
    if maxDepth ≤ depth then []
    else match item' with
      | .command _ _ payload' => payloadPairs depth false false payload payload' (w.append (header runtimeName commandType))
      | _                     => []

def payloadPairs (depth : Nat) : (followsSensitiveKey hasContent : Bool) → List Item → List Item → Writer →
    List (Leaf × Leaf)
  | _, _, [], _, _                                            => []
  | followsSensitiveKey, hasContent, item :: rest, items', w =>
    if r.room depth ≤ w.length then []
    else match items' with
      | []             => []
      | item' :: rest' =>
        let written := writeValue r (depth + 1) (r.room depth) followsSensitiveKey item (w.separate hasContent)
        valuePairs (depth + 1) item item' (w.separate hasContent) ++
          if written.2 then payloadPairs depth (isKey r.isSensitiveKey item) true rest rest' written.1 else []

end

/-- Each two leaves that are reached in the same place show the same. -/
def ShownAlike (shown : Leaf → Option Units) (runtimeName commandType : Units) (payload payload' : List Item) : Prop :=
  ∀ pair ∈ payloadPairs r 0 false false payload payload' (({} : Writer).append (header runtimeName commandType)),
    shown pair.2 = shown pair.1

end Pairs

/-! ## Leaves that show the same -/

/-- A forced leaf is written by what it shows only. -/
def Hides (r : Renderer) (shown : Leaf → Option Units) : Prop :=
  ∀ localBudget leaf leaf' w, shown leaf' = shown leaf →
    r.writeLeaf localBudget true leaf' w = r.writeLeaf localBudget true leaf w

section Hides

variable {r : Renderer} {shown : Leaf → Option Units}

mutual

/-- **Alike items that show the same are rendered alike.** -/
theorem writeValue_alike (hr : Hides r shown) : ∀ (item : Item) {item' : Item} (followsSensitiveKey : Bool),
    Alike r.isSensitiveKey followsSensitiveKey item item' → ∀ (depth localBudget : Nat) (w : Writer),
    (∀ pair ∈ valuePairs r depth item item' w, shown pair.2 = shown pair.1) →
    writeValue r depth localBudget followsSensitiveKey item' w = writeValue r depth localBudget followsSensitiveKey item w
  | .null, _, followsSensitiveKey, h, depth, localBudget, w, _ => by
    rw [Alike] at h
    rw [h]
  | .leaf leaf, _, followsSensitiveKey, h, depth, localBudget, w, hs => by
    rw [Alike] at h
    rcases h with rfl | ⟨rfl, leaf', rfl, -, -⟩
    · rfl
    · rw [writeValue, writeValue]
      by_cases hd : maxDepth ≤ depth
      · rw [if_pos hd, if_pos hd]
      · rw [valuePairs, if_neg hd] at hs
        rw [if_neg hd, if_neg hd, hr localBudget leaf leaf' w (hs (leaf, leaf') (List.mem_singleton.2 rfl))]
  | .command runtimeName commandType payload, _, followsSensitiveKey, h, depth, localBudget, w, hs => by
    rw [Alike] at h
    obtain ⟨payload', rfl, hp⟩ := h
    rw [writeValue, writeValue]
    by_cases hd : maxDepth ≤ depth
    · rw [if_pos hd, if_pos hd]
    · rw [valuePairs, if_neg hd] at hs
      rw [if_neg hd, if_neg hd, writePayload_alike hr payload hp depth false _ hs]

theorem writePayload_alike (hr : Hides r shown) : ∀ (items : List Item) {items' : List Item}
    {followsSensitiveKey : Bool}, AllAlike r.isSensitiveKey followsSensitiveKey items items' →
    ∀ (depth : Nat) (hasContent : Bool) (w : Writer),
    (∀ pair ∈ payloadPairs r depth followsSensitiveKey hasContent items items' w, shown pair.2 = shown pair.1) →
    writePayload r depth followsSensitiveKey hasContent items' w =
      writePayload r depth followsSensitiveKey hasContent items w
  | [], _, _, h, depth, hasContent, w, _ => by
    rw [AllAlike] at h
    rw [h]
  | item :: rest, _, followsSensitiveKey, h, depth, hasContent, w, hs => by
    rw [AllAlike] at h
    obtain ⟨item', rest', rfl, hi, hrest⟩ := h
    rw [writePayload, writePayload]
    by_cases hroom : r.room depth ≤ w.length
    · rw [if_pos hroom, if_pos hroom]
    · rw [payloadPairs, if_neg hroom] at hs
      have hvalue := writeValue_alike hr item followsSensitiveKey hi (depth + 1) (r.room depth) (w.separate hasContent)
        fun pair hp => hs pair (List.mem_append_left _ hp)
      rw [if_neg hroom, if_neg hroom, hvalue, isKey_alike hi]
      dsimp only at hs ⊢
      cases hb : (writeValue r (depth + 1) (r.room depth) followsSensitiveKey item (w.separate hasContent)).2 with
      | true =>
        rw [hb, if_pos rfl] at hs
        rw [if_pos rfl, if_pos rfl, writePayload_alike hr rest hrest depth true _
          fun pair hp => hs pair (List.mem_append_right _ hp)]
      | false => rfl

end

theorem rendered_alike (hr : Hides r shown) (runtimeName commandType : Units) {payload payload' : List Item}
    (h : AllAlike r.isSensitiveKey false payload payload')
    (hs : ShownAlike r shown runtimeName commandType payload payload') :
    rendered r runtimeName commandType payload' = rendered r runtimeName commandType payload := by
  unfold rendered writeCommand
  rw [writePayload_alike hr payload h 0 false _ hs]

end Hides

/-! ## Leaves that show different things -/

/-- What comes behind a value: nothing so far, or what ends it. -/
def Tail (rest : Units) : Prop := ∀ a ∈ rest.head?, Stops (mark ','.toNat) a

theorem tail_nil : Tail [] := fun _ h => by cases h

theorem Tail.append {rest more : Units} (h : Tail rest) (h' : Tail more) : Tail (rest ++ more) := by
  cases rest with
  | nil => exact h'
  | cons a rest => exact h

theorem tail_joined (vs : List Units) : Tail (joined true vs) := by
  cases vs with
  | nil => exact tail_nil
  | cons v vs =>
    rintro a ⟨⟩
    exact Or.inl rfl

/-- Texts that part in two values. -/
def Diverge (out out' : Units) : Prop :=
  ∃ before v v' rest rest', out = before ++ v ++ rest ∧ out' = before ++ v' ++ rest' ∧ Closed v ∧ Closed v' ∧ v ≠ v' ∧
    Tail rest ∧ Tail rest'

theorem Diverge.append {out out' more more' : Units} (h : Diverge out out') (hmore : Tail more) (hmore' : Tail more') :
    Diverge (out ++ more) (out' ++ more') := by
  obtain ⟨before, v, v', rest, rest', rfl, rfl, hv, hv', hne, hrest, hrest'⟩ := h
  exact ⟨before, v, v', rest ++ more, rest' ++ more', List.append_assoc .., List.append_assoc .., hv, hv', hne,
    hrest.append hmore, hrest'.append hmore'⟩

/-- Once both have gone on behind their values they differ. -/
theorem Diverge.ne {out out' : Units} (h : Diverge out out') {more more' : Units} (hmore : Tail more ∧ more ≠ [])
    (hmore' : Tail more' ∧ more' ≠ []) : out ++ more ≠ out' ++ more' := by
  have hsplit : ∀ {x y : Units}, Tail x → Tail y ∧ y ≠ [] → ∃ a z, x ++ y = a :: z ∧ Stops (mark ','.toNat) a := by
    intro x y hx hy
    have htail := hx.append hy.1
    cases heq : x ++ y with
    | nil => exact absurd (List.append_eq_nil_iff.1 heq).2 hy.2
    | cons a z =>
      rw [heq] at htail
      exact ⟨a, z, rfl, htail a rfl⟩
  obtain ⟨before, v, v', rest, rest', rfl, rfl, hv, hv', hne, hrest, hrest'⟩ := h
  obtain ⟨a, z, hz, ha⟩ := hsplit hrest hmore
  obtain ⟨a', z', hz', ha'⟩ := hsplit hrest' hmore'
  intro heq
  simp only [List.append_assoc, List.append_cancel_left_eq, hz, hz'] at heq
  exact hne (hv.unique hv' ha ha' heq).1

/-- A number printed without quotes, brackets, commas and backslashes. -/
def Bare (text : Units) : Prop := ∀ unit ∈ text, mark ','.toNat unit = .plain

/-- Forced leaves that show different things are written as different values. -/
def Tells (r : Renderer) (shown : Leaf → Option Units) : Prop :=
  ∀ localBudget leaf leaf' w, (∀ p ∈ (numberOf true leaf).toList, Bare p) → (∀ p ∈ (numberOf true leaf').toList, Bare p) →
    shown leaf' ≠ shown leaf →
      Diverge (r.writeLeaf localBudget true leaf w).1.out (r.writeLeaf localBudget true leaf' w).1.out

section Texts

variable {r : Renderer} {number : (forceRedact : Bool) → Leaf → Option Units}

mutual

theorem writeValue_text (hr : WritesLeaves r number) : ∀ (item : Item) (depth localBudget : Nat) (forceRedact : Bool)
    (w : Writer), ∃ v, (writeValue r depth localBudget forceRedact item w).1.out = w.out ++ v
  | .null, depth, localBudget, forceRedact, w => ⟨_, by rw [writeValue, Writer.out_append]⟩
  | .leaf leaf, depth, localBudget, forceRedact, w => by
    rw [writeValue]
    split
    · exact ⟨_, rfl⟩
    · obtain ⟨v, ho, -⟩ := hr localBudget forceRedact leaf w
      exact ⟨v, ho⟩
  | .command runtimeName commandType payload, depth, localBudget, forceRedact, w => by
    rw [writeValue]
    split
    · exact ⟨_, rfl⟩
    · obtain ⟨vs, ho, hc⟩ := writePayload_texts hr payload depth false false (w.append (header runtimeName commandType))
      exact ⟨_, close_out ho hc⟩

theorem writePayload_texts (hr : WritesLeaves r number) : ∀ (items : List Item) (depth : Nat)
    (followsSensitiveKey hasContent : Bool) (w : Writer), ∃ vs,
      (writePayload r depth followsSensitiveKey hasContent items w).1.out = w.out ++ joined hasContent vs ∧
      (writePayload r depth followsSensitiveKey hasContent items w).2.2 = (hasContent || !vs.isEmpty)
  | [], depth, followsSensitiveKey, hasContent, w => by
    refine ⟨[], ?_, ?_⟩
    · rw [writePayload]
      simp [Delimited.joined]
    · rw [writePayload]
      simp
  | item :: rest, depth, followsSensitiveKey, hasContent, w => by
    rw [writePayload]
    split
    · exact ⟨[], by simp [Delimited.joined], by simp⟩
    obtain ⟨v, ho⟩ := writeValue_text hr item (depth + 1) (r.room depth) followsSensitiveKey (w.separate hasContent)
    generalize writeValue r (depth + 1) (r.room depth) followsSensitiveKey item (w.separate hasContent) = written at ho ⊢
    rw [out_separate, List.append_assoc] at ho
    dsimp only
    cases hb : written.2 with
    | true =>
      obtain ⟨vs, hos, hcs⟩ := writePayload_texts hr rest depth (isKey r.isSensitiveKey item) true written.1
      refine ⟨v :: vs, ?_, ?_⟩
      · rw [if_pos rfl, hos, ho]
        simp only [Delimited.joined, List.append_assoc]
      · rw [if_pos rfl, hcs]
        simp
    | false =>
      refine ⟨[v], ?_, by simp⟩
      rw [if_neg Bool.false_ne_true, ho]
      simp only [Delimited.joined, List.append_nil]

end

/-- Behind the first value of a payload comes what ends it. -/
theorem writePayload_cons (hr : WritesLeaves r number) (item : Item) (rest : List Item) {depth : Nat}
    (followsSensitiveKey hasContent : Bool) {w : Writer} (hroom : ¬ r.room depth ≤ w.length) : ∃ more, Tail more ∧
      (writePayload r depth followsSensitiveKey hasContent (item :: rest) w).1.out =
        (writeValue r (depth + 1) (r.room depth) followsSensitiveKey item (w.separate hasContent)).1.out ++ more ∧
      (writePayload r depth followsSensitiveKey hasContent (item :: rest) w).2.2 = true := by
  rw [writePayload, if_neg hroom]
  generalize writeValue r (depth + 1) (r.room depth) followsSensitiveKey item (w.separate hasContent) = written
  dsimp only
  cases hb : written.2 with
  | true =>
    obtain ⟨vs, ho, hc⟩ := writePayload_texts hr rest depth (isKey r.isSensitiveKey item) true written.1
    exact ⟨_, tail_joined vs, ho, hc⟩
  | false => exact ⟨[], tail_nil, (List.append_nil _).symm, rfl⟩

theorem close_tail (withinBudget : Bool) (w : Writer) : ∃ more, (Tail more ∧ more ≠ []) ∧
    (close withinBudget true w).out = w.out ++ more := by
  cases withinBudget with
  | true => exact ⟨units "]\x7d", ⟨by rintro a ⟨⟩; exact Or.inr rfl, by decide⟩, rfl⟩
  | false =>
    refine ⟨units "," ++ truncationMarker ++ units "]\x7d", ⟨by rintro a ⟨⟩; exact Or.inl rfl, by decide⟩, ?_⟩
    simp only [close, Bool.false_eq_true, if_false, if_true, Writer.out_append, List.append_assoc]

end Texts

section Diverge

variable {r : Renderer} {shown : Leaf → Option Units}

mutual

/-- **Alike items with two leaves that show different things are rendered apart.** -/
theorem writeValue_diverge (hr : WritesLeaves r numberOf) (hh : Hides r shown) (ht : Tells r shown) :
    ∀ (item : Item) {item' : Item} (followsSensitiveKey : Bool), Alike r.isSensitiveKey followsSensitiveKey item item' →
    ∀ (depth localBudget : Nat) (w : Writer),
    (∀ p ∈ valueNumbers r numberOf depth followsSensitiveKey item w, Bare p) →
    (∀ p ∈ valueNumbers r numberOf depth followsSensitiveKey item' w, Bare p) →
    (¬ ∀ pair ∈ valuePairs r depth item item' w, shown pair.2 = shown pair.1) →
    Diverge (writeValue r depth localBudget followsSensitiveKey item w).1.out
      (writeValue r depth localBudget followsSensitiveKey item' w).1.out
  | .null, _, followsSensitiveKey, _, depth, localBudget, w, _, _, hpairs => by simp [valuePairs] at hpairs
  | .leaf leaf, _, followsSensitiveKey, h, depth, localBudget, w, hs, hs', hpairs => by
    rw [Alike] at h
    by_cases hd : maxDepth ≤ depth
    · simp [valuePairs, hd] at hpairs
    rcases h with rfl | ⟨rfl, leaf', rfl, -, -⟩
    · simp [valuePairs] at hpairs
    · rw [valuePairs, if_neg hd, List.forall_mem_singleton] at hpairs
      rw [valueNumbers, if_neg hd] at hs hs'
      rw [writeValue, writeValue, if_neg hd, if_neg hd]
      exact ht localBudget leaf leaf' w hs hs' hpairs
  | .command runtimeName commandType payload, _, followsSensitiveKey, h, depth, localBudget, w, hs, hs', hpairs => by
    rw [Alike] at h
    obtain ⟨payload', rfl, hp⟩ := h
    by_cases hd : maxDepth ≤ depth
    · simp [valuePairs, hd] at hpairs
    rw [valuePairs, if_neg hd] at hpairs
    rw [valueNumbers, if_neg hd] at hs hs'
    rw [writeValue, writeValue, if_neg hd, if_neg hd]
    obtain ⟨hdiverge, hcontent, hcontent'⟩ := writePayload_diverge hr hh ht payload hp depth false _ hs hs' hpairs
    dsimp only
    rw [hcontent, hcontent']
    obtain ⟨more, hmore, ho⟩ := close_tail _ _
    obtain ⟨more', hmore', ho'⟩ := close_tail _ _
    rw [ho, ho']
    exact hdiverge.append hmore.1 hmore'.1

theorem writePayload_diverge (hr : WritesLeaves r numberOf) (hh : Hides r shown) (ht : Tells r shown) :
    ∀ (items : List Item) {items' : List Item} {followsSensitiveKey : Bool},
    AllAlike r.isSensitiveKey followsSensitiveKey items items' → ∀ (depth : Nat) (hasContent : Bool) (w : Writer),
    (∀ p ∈ payloadNumbers r numberOf depth followsSensitiveKey hasContent items w, Bare p) →
    (∀ p ∈ payloadNumbers r numberOf depth followsSensitiveKey hasContent items' w, Bare p) →
    (¬ ∀ pair ∈ payloadPairs r depth followsSensitiveKey hasContent items items' w, shown pair.2 = shown pair.1) →
    Diverge (writePayload r depth followsSensitiveKey hasContent items w).1.out
      (writePayload r depth followsSensitiveKey hasContent items' w).1.out ∧
    (writePayload r depth followsSensitiveKey hasContent items w).2.2 = true ∧
    (writePayload r depth followsSensitiveKey hasContent items' w).2.2 = true
  | [], _, _, _, depth, hasContent, w, _, _, hpairs => by simp [payloadPairs] at hpairs
  | item :: rest, _, followsSensitiveKey, h, depth, hasContent, w, hs, hs', hpairs => by
    rw [AllAlike] at h
    obtain ⟨item', rest', rfl, hi, hrest⟩ := h
    by_cases hroom : r.room depth ≤ w.length
    · simp [payloadPairs, hroom] at hpairs
    rw [payloadPairs, if_neg hroom, List.forall_mem_append] at hpairs
    rw [payloadNumbers, if_neg hroom, List.forall_mem_append] at hs hs'
    by_cases hfirst : ∀ pair ∈ valuePairs r (depth + 1) item item' (w.separate hasContent), shown pair.2 = shown pair.1
    · -- nothing has shown yet, and both go on from the same text
      have hvalue := writeValue_alike hh item followsSensitiveKey hi (depth + 1) (r.room depth) (w.separate hasContent)
        hfirst
      have hlater := fun hall => hpairs ⟨hfirst, hall⟩
      rw [hvalue, isKey_alike hi] at hs'
      rw [writePayload, writePayload, if_neg hroom, if_neg hroom, hvalue, isKey_alike hi]
      dsimp only at hs hs' hlater ⊢
      cases hb : (writeValue r (depth + 1) (r.room depth) followsSensitiveKey item (w.separate hasContent)).2 with
      | true =>
        rw [hb, if_pos rfl] at hs hs' hlater
        rw [if_pos rfl, if_pos rfl]
        exact writePayload_diverge hr hh ht rest hrest depth true _ hs.2 hs'.2 hlater
      | false =>
        rw [hb, if_neg Bool.false_ne_true] at hlater
        exact absurd (fun pair hp => absurd hp List.not_mem_nil) hlater
    · obtain ⟨more, hmore, ho, hc⟩ := writePayload_cons hr item rest followsSensitiveKey hasContent hroom
      obtain ⟨more', hmore', ho', hc'⟩ := writePayload_cons hr item' rest' followsSensitiveKey hasContent hroom
      rw [ho, ho']
      exact ⟨(writeValue_diverge hr hh ht item followsSensitiveKey hi (depth + 1) (r.room depth) _ hs.1 hs'.1
        hfirst).append hmore hmore', hc, hc'⟩

end

theorem rendered_diverge (hr : WritesLeaves r numberOf) (hh : Hides r shown) (ht : Tells r shown)
    (runtimeName commandType : Units) {payload payload' : List Item} (h : AllAlike r.isSensitiveKey false payload payload')
    (hs : ∀ p ∈ writtenNumbers r numberOf runtimeName commandType payload, Bare p)
    (hs' : ∀ p ∈ writtenNumbers r numberOf runtimeName commandType payload', Bare p)
    (hpairs : ¬ ShownAlike r shown runtimeName commandType payload payload') :
    (rendered r runtimeName commandType payload').out ≠ (rendered r runtimeName commandType payload).out := by
  obtain ⟨hdiverge, hcontent, hcontent'⟩ := writePayload_diverge hr hh ht payload h 0 false _ hs hs' hpairs
  unfold rendered writeCommand
  dsimp only
  rw [hcontent, hcontent']
  obtain ⟨more, hmore, ho⟩ := close_tail _ _
  obtain ⟨more', hmore', ho'⟩ := close_tail _ _
  rw [ho, ho']
  exact (hdiverge.ne hmore' hmore).symm

end Diverge

/-! ## What a leaf shows -/

/-- What is seen of a leaf behind a sensitive name in Python, Java and .NET. -/
def told : Leaf → Option Units
  | .text _           => none
  | .boolean flag     => some (units (if flag then "true" else "false"))
  | .number _ printed => some printed
  | .bytes length     => some (bytesText length)
  | .other _          => none

theorem writeLeaf_forced (redactor : LogsRedactor (Option Units)) (localBudget : Nat) (leaf : Leaf) (w : Writer) :
    writeLeaf redactor localBudget true leaf w =
      match told leaf with
      | some text => (w.append text, true)
      | none      => writeString localBudget (some redactor.placeholder) w := by
  cases leaf <;> rfl

theorem hides_writeLeaf (redactor : LogsRedactor (Option Units)) (room : Nat → Nat) :
    Hides ⟨room, redactor.isSensitiveKey, writeLeaf redactor⟩ told := by
  intro localBudget leaf leaf' w h
  show writeLeaf redactor localBudget true leaf' w = writeLeaf redactor localBudget true leaf w
  rw [writeLeaf_forced, writeLeaf_forced, h]

theorem hides_node (redactor : LogsRedactor Units) (maxLength : Int) : Hides (node redactor maxLength) fun _ => none :=
  fun _ _ _ _ _ => rfl

theorem closed_told {leaf : Leaf} {text : Units} (h : told leaf = some text)
    (hbare : ∀ p ∈ (numberOf true leaf).toList, Bare p) : Closed text := by
  cases leaf with
  | boolean flag =>
    obtain rfl := Option.some.inj h
    exact (IsJson.boolean flag).closed
  | number finite printed =>
    obtain rfl := Option.some.inj h
    exact Delimited.passes_of_plain (hbare _ (List.mem_singleton.2 rfl))
  | bytes length =>
    obtain rfl := Option.some.inj h
    exact (isJson_bytesText length).closed
  | text value => cases h
  | other formatted => cases h

theorem escapeUnit_cases (unit : Nat) : escapeUnit unit = [unit] ∨ ∃ rest, escapeUnit unit = '\\'.toNat :: rest := by
  unfold escapeUnit
  split
  · exact Or.inr ⟨_, rfl⟩
  split
  · exact Or.inr ⟨_, rfl⟩
  split
  · exact Or.inr ⟨_, rfl⟩
  split
  · exact Or.inr ⟨_, rfl⟩
  split
  · exact Or.inr ⟨_, rfl⟩
  split
  · exact Or.inr ⟨_, rfl⟩
  · exact Or.inl rfl

/-- Where an escaped text begins without an escape, the text itself begins so. -/
theorem prefix_of_escaped : ∀ (text value : Units), (∀ unit ∈ text, unit ≠ '\\'.toNat) →
    text <+: value.flatMap escapeUnit → text <+: value
  | [], _, _, _ => List.nil_prefix
  | unit :: text, [], _, h => by simp at h
  | unit :: text, first :: value, hplain, h => by
    rw [List.flatMap_cons] at h
    rcases escapeUnit_cases first with hone | ⟨rest, hescape⟩
    · rw [hone, List.singleton_append, List.cons_prefix_cons] at h
      obtain ⟨rfl, h⟩ := h
      rw [List.cons_prefix_cons]
      exact ⟨rfl, prefix_of_escaped text value (fun u hu => hplain u (List.mem_cons_of_mem _ hu)) h⟩
    · rw [hescape, List.cons_append, List.cons_prefix_cons] at h
      exact absurd h.1 (hplain unit List.mem_cons_self)

/-- What a leaf shows is no part of the placeholder in quotes, if the placeholder does not read as a byte array. -/
theorem told_ne_quoted {leaf : Leaf} {text : Units} (h : told leaf = some text)
    (hbare : ∀ p ∈ (numberOf true leaf).toList, Bare p) {placeholder : Units}
    (hplaceholder : ¬ units "[bytes:" <+: placeholder) (k : Nat) :
    text ≠ quoted ((placeholder.take k).flatMap escapeUnit) := by
  intro heq
  cases leaf with
  | boolean flag =>
    rw [← Option.some.inj h] at heq
    cases flag <;> exact absurd (congrArg List.head? heq) (by simp [quoted, units])
  | number finite printed =>
    rw [← Option.some.inj h] at heq
    have hquote := hbare printed (List.mem_singleton.2 rfl) '"'.toNat (by rw [heq]; exact List.mem_cons_self)
    exact absurd hquote (by decide)
  | bytes length =>
    rw [← Option.some.inj h, bytesText_eq] at heq
    have hbody := quoted_inj heq
    rw [List.append_assoc] at hbody
    have hbegins := prefix_of_escaped (units "[bytes:") (placeholder.take k) (by decide) ⟨_, hbody⟩
    exact hplaceholder (hbegins.trans (List.take_prefix k placeholder))
  | text value => cases h
  | other formatted => cases h

theorem tells_writeLeaf (redactor : LogsRedactor (Option Units)) (room : Nat → Nat)
    (hplaceholder : ¬ units "[bytes:" <+: redactor.placeholder) :
    Tells ⟨room, redactor.isSensitiveKey, writeLeaf redactor⟩ told := by
  intro localBudget leaf leaf' w hbare hbare' hne
  show Diverge (writeLeaf redactor localBudget true leaf w).1.out (writeLeaf redactor localBudget true leaf' w).1.out
  obtain ⟨k, ho⟩ := writeString_out localBudget redactor.placeholder w
  have hhidden : Closed (quoted ((redactor.placeholder.take k).flatMap escapeUnit)) :=
    passes_quoted (isStringBody_escaped _)
  rw [writeLeaf_forced, writeLeaf_forced]
  cases htold : told leaf with
  | none =>
    cases htold' : told leaf' with
    | none => rw [htold, htold'] at hne; exact absurd rfl hne
    | some text' =>
      have hparts := told_ne_quoted htold' hbare' hplaceholder k
      exact ⟨w.out, _, text', [], [], by simpa using ho, by simp, hhidden, closed_told htold' hbare', hparts.symm,
        tail_nil, tail_nil⟩
  | some text =>
    cases htold' : told leaf' with
    | none =>
      have hparts := told_ne_quoted htold hbare hplaceholder k
      exact ⟨w.out, text, _, [], [], by simp, by simpa using ho, closed_told htold hbare, hhidden, hparts,
        tail_nil, tail_nil⟩
    | some text' =>
      have hparts : text ≠ text' := by
        rintro rfl
        exact hne (htold'.trans htold.symm)
      exact ⟨w.out, text, text', [], [], by simp, by simp, closed_told htold hbare, closed_told htold' hbare', hparts,
        tail_nil, tail_nil⟩

/-! ## Exactly what is concealed -/

/-- `BodyCapture.render` of Python. -/
def bodyPython (redactor : LogsRedactor (Option Units)) (maxCharacters : Option Int) (runtimeName commandType : Units)
    (payload : List Item) : Option Result :=
  some (resultOf redactor.redactBody (renderPython redactor maxCharacters runtimeName commandType payload))

/-- `BodyCapture.render` of Java. -/
def bodyJava (redactor : LogsRedactor (Option Units)) (maxCharacters : Int) (runtimeName commandType : Units)
    (payload : List Item) : Option Result :=
  (renderJava redactor maxCharacters runtimeName commandType payload).map (resultOf redactor.redactBody)

/-- `BodyCapture.Render` of .NET. -/
def bodyDotnet (redactor : LogsRedactor (Option Units)) (maxCharacters : Int) (runtimeName commandType : Units)
    (payload : List Item) : Option Result :=
  (renderDotnet redactor maxCharacters runtimeName commandType payload).map (resultOf redactor.redactBody)

/-- `renderBody` of Node. -/
def bodyNode (redactor : LogsRedactor Units) (maxLength : Int) (runtimeName commandType : Units) (payload : List Item) :
    Option Result :=
  some (resultOf redactor.redactBody (renderNode redactor maxLength runtimeName commandType payload))

section Results

variable {Value Limit : Type}

/-- Bodies and flags of two trees are equal, whatever `redactBody` does to the text. -/
def EqualResults (render : LogsRedactor Value → Limit → Units → Units → List Item → Option Result)
    (redactor : LogsRedactor Value) (limit : Limit) (runtimeName commandType : Units) (payload payload' : List Item) :
    Prop :=
  ∀ redactBody, render { redactor with redactBody } limit runtimeName commandType payload' =
    render { redactor with redactBody } limit runtimeName commandType payload

end Results

/-- The results of two trees are equal if each two leaves that are reached in the same place show the same, and only then
where numbers are printed bare and the placeholder does not read as a byte array. -/
structure ConcealedExactly (r : Renderer) (placeholder : Units) (runtimeName commandType : Units)
    (payload payload' : List Item) (equal : Prop) : Prop where
  enough  : ShownAlike r told runtimeName commandType payload payload' → equal
  exactly : (∀ p ∈ writtenNumbers r numberOf runtimeName commandType payload, Bare p) →
    (∀ p ∈ writtenNumbers r numberOf runtimeName commandType payload', Bare p) → ¬ units "[bytes:" <+: placeholder →
      (equal ↔ ShownAlike r told runtimeName commandType payload payload')

theorem concealedExactly (redactor : LogsRedactor (Option Units)) (room : Nat → Nat) (runtimeName commandType : Units)
    {payload payload' : List Item} (h : AllAlike redactor.isSensitiveKey false payload payload') {equal : Prop}
    (hequal : equal ↔ rendered ⟨room, redactor.isSensitiveKey, writeLeaf redactor⟩ runtimeName commandType payload' =
      rendered ⟨room, redactor.isSensitiveKey, writeLeaf redactor⟩ runtimeName commandType payload) :
    ConcealedExactly ⟨room, redactor.isSensitiveKey, writeLeaf redactor⟩ redactor.placeholder runtimeName commandType
      payload payload' equal := by
  have henough := rendered_alike (hides_writeLeaf redactor room) runtimeName commandType h
  refine ⟨fun hs => hequal.2 (henough hs), fun hbare hbare' hplaceholder => ?_⟩
  rw [hequal]
  refine ⟨fun heq => ?_, henough⟩
  by_contra hs
  exact rendered_diverge (writesLeaves_writeLeaf redactor room) (hides_writeLeaf redactor room)
    (tells_writeLeaf redactor room hplaceholder) runtimeName commandType h hbare hbare' hs (congrArg Writer.out heq)

/-- Equal results whatever is done to the text are equal texts and flags. -/
theorem forall_resultOf_iff (w w' : Writer) :
    (∀ redactBody, resultOf redactBody w' = resultOf redactBody w) ↔ w' = w := by
  constructor
  · intro h
    have hsome := h some
    have hout : w'.out = w.out := Option.some.inj (congrArg Result.body hsome)
    have hflag : w'.truncated = w.truncated := congrArg Result.truncated hsome
    cases w
    cases w'
    simp_all
  · rintro rfl _
    rfl

/-- **What follows a sensitive name**: two trees that differ only there have equal bodies and flags in Node; in Python, Java
and .NET exactly if each two leaves that are reached in the same place show the same. -/
theorem conceals_iff (runtimeName commandType : Units) (payload payload' : List Item) :
    (∀ (redactor : LogsRedactor (Option Units)) (maxCharacters : Option Int),
      AllAlike redactor.isSensitiveKey false payload payload' →
      ConcealedExactly (python redactor maxCharacters) redactor.placeholder runtimeName commandType payload payload'
        (EqualResults bodyPython redactor maxCharacters runtimeName commandType payload payload')) ∧
    (∀ (redactor : LogsRedactor (Option Units)) (maxCharacters : Int),
      AllAlike redactor.isSensitiveKey false payload payload' →
      (maxCharacters < 0 → EqualResults bodyJava redactor maxCharacters runtimeName commandType payload payload' ∧
        EqualResults bodyDotnet redactor maxCharacters runtimeName commandType payload payload') ∧
      (0 ≤ maxCharacters →
        ConcealedExactly (jvm redactor maxCharacters) redactor.placeholder runtimeName commandType payload payload'
          (EqualResults bodyJava redactor maxCharacters runtimeName commandType payload payload') ∧
        ConcealedExactly (jvm redactor maxCharacters) redactor.placeholder runtimeName commandType payload payload'
          (EqualResults bodyDotnet redactor maxCharacters runtimeName commandType payload payload'))) ∧
    ∀ (redactor : LogsRedactor Units) (maxLength : Int), AllAlike redactor.isSensitiveKey false payload payload' →
      EqualResults bodyNode redactor maxLength runtimeName commandType payload payload' := by
  refine ⟨fun redactor maxCharacters h => ?_, fun redactor maxCharacters h => ⟨fun hneg => ?_, fun hlen => ?_⟩,
    fun redactor maxLength h redactBody => ?_⟩
  · apply concealedExactly redactor _ runtimeName commandType h
    rw [← forall_resultOf_iff]
    exact forall_congr' fun redactBody => Option.some_inj
  · unfold EqualResults bodyJava bodyDotnet renderJava renderDotnet
    simp [hneg]
  · have hresult : EqualResults bodyJava redactor maxCharacters runtimeName commandType payload payload' ↔
        rendered (jvm redactor maxCharacters) runtimeName commandType payload' =
          rendered (jvm redactor maxCharacters) runtimeName commandType payload := by
      unfold EqualResults bodyJava renderJava
      simp only [if_neg (Int.not_lt.2 hlen), Option.map_some, Option.some_inj]
      rw [← forall_resultOf_iff]
      exact forall_congr' fun _ => Iff.rfl
    exact ⟨concealedExactly redactor _ runtimeName commandType h hresult,
      concealedExactly redactor _ runtimeName commandType h hresult⟩
  · exact congrArg (fun w => some (resultOf redactBody w))
      (rendered_alike (hides_node redactor maxLength) runtimeName commandType h fun _ _ => rfl)

def oneName : LogsRedactor (Option Units) where
  placeholder := units "[REDACTED]"
  isSensitiveKey value := decide (value = units "password")
  redactValue := id
  redactBody := some

def password (leaf : Leaf) : List Item := [.leaf (.text (units "password")), .leaf leaf]

theorem alike_password {leaf leaf' : Leaf} (h : isKey oneName.isSensitiveKey (.leaf leaf) = false)
    (h' : isKey oneName.isSensitiveKey (.leaf leaf') = false) :
    AllAlike oneName.isSensitiveKey false (password leaf) (password leaf') := by
  unfold password
  simp only [AllAlike, Alike]
  exact ⟨_, _, rfl, Or.inl rfl, _, _, rfl, Or.inr ⟨by decide, leaf', rfl, h, h'⟩, rfl⟩

/-- The passwords "a" and "b" are concealed; the passwords 1 and 2 are where the budget leaves no room for them. -/
theorem conceals_iff_password :
    EqualResults bodyJava oneName 256 [] [] (password (.text (units "a"))) (password (.text (units "b"))) ∧
    EqualResults bodyPython oneName (some 0) [] [] (password (.number true (units "1")))
      (password (.number true (units "2"))) ∧
    ¬ EqualResults bodyPython oneName (some 256) [] [] (password (.number true (units "1")))
      (password (.number true (units "2"))) := by
  have htexts := @alike_password (.text (units "a")) (.text (units "b")) (by decide) (by decide)
  have hnumbers := @alike_password (.number true (units "1")) (.number true (units "2")) rfl rfl
  have hbare : ∀ text ∈ [units "1", units "2"], Bare text := by
    unfold Bare
    decide
  have hwritten : ∀ text ∈ [units "1", units "2"], writtenNumbers (python oneName (some 256)) numberOf [] []
      (password (.number true text)) = [text] := by decide
  refine ⟨((((conceals_iff [] [] _ _).2.1 oneName 256 htexts).2 (by decide)).1).enough ?_,
    ((conceals_iff [] [] _ _).1 oneName (some 0) hnumbers).enough ?_, fun hequal => ?_⟩
  · have hpairs : payloadPairs (jvm oneName 256) 0 false false (password (.text (units "a"))) (password (.text (units "b")))
        (({} : Writer).append (header [] [])) = [(.text (units "password"), .text (units "password")),
          (.text (units "a"), .text (units "b"))] := rfl
    intro pair hp
    rw [hpairs] at hp
    simp only [List.mem_cons, List.not_mem_nil, or_false] at hp
    rcases hp with rfl | rfl <;> rfl
  · have hpairs : payloadPairs (python oneName (some 0)) 0 false false (password (.number true (units "1")))
        (password (.number true (units "2"))) (({} : Writer).append (header [] [])) = [] := rfl
    intro pair hp
    rw [hpairs] at hp
    cases hp
  · have hshown := (((conceals_iff [] [] _ _).1 oneName (some 256) hnumbers).exactly
      (by rw [hwritten (units "1") (by decide)]; exact List.forall_mem_singleton.2 (hbare _ (by decide)))
      (by rw [hwritten (units "2") (by decide)]; exact List.forall_mem_singleton.2 (hbare _ (by decide)))
      (by decide)).1 hequal
    have hpairs : payloadPairs (python oneName (some 256)) 0 false false (password (.number true (units "1")))
        (password (.number true (units "2"))) (({} : Writer).append (header [] [])) =
          [(.text (units "password"), .text (units "password")),
            (.number true (units "1"), .number true (units "2"))] := rfl
    have htold := hshown (.number true (units "1"), .number true (units "2")) (by rw [hpairs]; simp)
    exact absurd (Option.some.inj htold) (by decide)

/-- Equal bodies and flags wherever two trees differ only in what follows a sensitive name. -/
def Conceals {Value Limit : Type} (render : LogsRedactor Value → Limit → Units → Units → List Item → Option Result) : Prop :=
  ∀ redactor limit runtimeName commandType payload payload',
    AllAlike redactor.isSensitiveKey false payload payload' →
    render redactor limit runtimeName commandType payload' = render redactor limit runtimeName commandType payload

/-- The password `true` and the password `false`. -/
theorem not_conceals_boolean : ¬ Conceals bodyPython ∧ ¬ Conceals bodyJava ∧ ¬ Conceals bodyDotnet := by
  have halike := @alike_password (.boolean true) (.boolean false) rfl rfl
  have hne : (rendered (jvm oneName 256) [] [] (password (.boolean false))).out ≠
      (rendered (jvm oneName 256) [] [] (password (.boolean true))).out := by decide
  refine ⟨fun hc => ?_, fun hc => ?_, fun hc => ?_⟩
  · have h := hc oneName (some 256) [] [] _ _ halike
    exact hne (Option.some.inj (congrArg Result.body (Option.some.inj h)))
  · have h := hc oneName 256 [] [] _ _ halike
    exact hne (Option.some.inj (congrArg Result.body (Option.some.inj h)))
  · have h := hc oneName 256 [] [] _ _ halike
    exact hne (Option.some.inj (congrArg Result.body (Option.some.inj h)))

end BodyCapture
end Graftcode
