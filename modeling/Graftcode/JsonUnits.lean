import Graftcode.BodyCapture
import Graftcode.JsonText
import Graftcode.Delimited
/-!
# JsonUnits — JSON over code units

The grammar of RFC 8259, white space included, over the code units of a string.  A scanner passes every JSON value, so the
values of an array and the members of an object can be read back from the text, and what stands in a command that is JSON
is JSON.
-/
namespace Graftcode
namespace BodyCapture

open Delimited (Mark Passes PassesQuoted)

/-! ## The grammar -/

def isBlank (unit : Nat) : Bool := [' ', '\t', '\n', '\r'].any fun c => unit == c.toNat

/-- White space, or nothing. -/
def Blank (space : Units) : Prop := ∀ unit ∈ space, isBlank unit = true

def PlainUnit (unit : Nat) : Prop := 0x20 ≤ unit ∧ unit ≠ '"'.toNat ∧ unit ≠ '\\'.toNat

/-- What stands between the quotes of a string literal. -/
inductive IsStringBody : Units → Prop where
  | nil : IsStringBody []
  | plain {unit : Nat} {rest : Units} (h : PlainUnit unit) (hr : IsStringBody rest) : IsStringBody (unit :: rest)
  | escape {rest : Units} (e : JsonText.Escape) (hr : IsStringBody rest) :
    IsStringBody ('\\'.toNat :: e.char.toNat :: rest)
  | unicode {rest : Units} (a b c d : JsonText.HexDigit) (hr : IsStringBody rest) :
    IsStringBody ('\\'.toNat :: 'u'.toNat :: a.1.toNat :: b.1.toNat :: c.1.toNat :: d.1.toNat :: rest)

/-- Values with commas between them, and one before the first when something stands before. -/
abbrev joined : Bool → List Units → Units := Delimited.joined ','.toNat

def quoted (body : Units) : Units := units "\"" ++ body ++ units "\""

theorem quoted_inj {body body' : Units} (h : quoted body = quoted body') : body = body' :=
  List.append_cancel_left (List.append_cancel_right h)

def member (m : Units × Units) : Units := m.1 ++ units ":" ++ m.2

/-- A name of an object, with white space around it. -/
def IsKey (key : Units) : Prop :=
  ∃ before body after, Blank before ∧ IsStringBody body ∧ Blank after ∧ key = before ++ quoted body ++ after

/-- One JSON value. -/
inductive IsJson : Units → Prop where
  | null : IsJson (units "null")
  | boolean (flag : Bool) : IsJson (units (if flag then "true" else "false"))
  | number (n : JsonText.Number) : IsJson (n.chars.map Char.toNat)
  | string {body : Units} (h : IsStringBody body) : IsJson (quoted body)
  | emptyArray {space : Units} (h : Blank space) : IsJson (units "[" ++ space ++ units "]")
  | array (vs : List Units) (h : ∀ v ∈ vs, IsJson v) : IsJson (units "[" ++ joined false vs ++ units "]")
  | emptyObject {space : Units} (h : Blank space) : IsJson (units "\x7b" ++ space ++ units "\x7d")
  | object (ms : List (Units × Units)) (hk : ∀ m ∈ ms, IsKey m.1) (hv : ∀ m ∈ ms, IsJson m.2) :
    IsJson (units "\x7b" ++ joined false (ms.map member) ++ units "\x7d")
  | padded {before v after : Units} (hb : Blank before) (h : IsJson v) (ha : Blank after) :
    IsJson (before ++ v ++ after)

theorem isStringBody_append {body body' : Units} (h : IsStringBody body) (h' : IsStringBody body') :
    IsStringBody (body ++ body') := by
  induction h with
  | nil => exact h'
  | plain hu _ ih => exact .plain hu ih
  | escape e _ ih => exact .escape e ih
  | unicode a b c d _ ih => exact .unicode a b c d ih

def PlainName (name : Units) : Prop := ∀ unit ∈ name, PlainUnit unit

theorem isStringBody_of_plainName {name : Units} (h : PlainName name) : IsStringBody name := by
  induction name with
  | nil => exact .nil
  | cons unit rest ih =>
    exact .plain (h unit List.mem_cons_self) (ih fun u hu => h u (List.mem_cons_of_mem _ hu))

theorem isKey_quoted {body : Units} (h : IsStringBody body) : IsKey (quoted body) :=
  ⟨[], body, [], by simp [Blank], h, by simp [Blank], by simp⟩

/-! ## What a scanner passes -/

/-- What a unit is to a scanner that reads up to a separator. -/
def mark (separator unit : Nat) : Mark :=
  if unit = '"'.toNat then .quote
  else if unit = '\\'.toNat then .escape
  else if unit = '['.toNat ∨ unit = '\x7b'.toNat then .opening
  else if unit = ']'.toNat ∨ unit = '\x7d'.toNat then .closing
  else if unit = separator then .separator
  else .plain

abbrev Closed (v : Units) : Prop := Passes (mark ','.toNat) v

theorem mark_of_plainUnit {separator unit : Nat} (h : PlainUnit unit) :
    mark separator unit ≠ .quote ∧ mark separator unit ≠ .escape := by
  unfold mark
  rw [if_neg h.2.1, if_neg h.2.2]
  split
  · exact ⟨by decide, by decide⟩
  split
  · exact ⟨by decide, by decide⟩
  split
  · exact ⟨by decide, by decide⟩
  · exact ⟨by decide, by decide⟩

theorem passesQuoted_of_plainUnit {separator unit : Nat} (h : PlainUnit unit) :
    PassesQuoted (mark separator) [unit] :=
  Delimited.passesQuoted_singleton (mark_of_plainUnit h).1 (mark_of_plainUnit h).2

theorem plainUnit_hexDigit (x : JsonText.HexDigit) : PlainUnit x.1.toNat := by
  obtain ⟨c, hc⟩ := x
  have hq : '"'.toNat = 34 := rfl
  have hb : '\\'.toNat = 92 := rfl
  simp only [JsonText.isHexDigit, Bool.or_eq_true, Bool.and_eq_true, decide_eq_true_eq, Char.le_def,
    UInt32.le_iff_toNat_le] at hc
  have hrange : 48 ≤ c.toNat ∧ c.toNat ≤ 57 ∨ 97 ≤ c.toNat ∧ c.toNat ≤ 102 ∨ 65 ≤ c.toNat ∧ c.toNat ≤ 70 := by
    rcases hc with (hc | hc) | hc
    · exact Or.inl (Char.isDigit_iff_toNat.1 hc)
    · exact Or.inr (Or.inl hc)
    · exact Or.inr (Or.inr hc)
  show 0x20 ≤ c.toNat ∧ c.toNat ≠ '"'.toNat ∧ c.toNat ≠ '\\'.toNat
  omega

theorem passesQuoted_of_isStringBody {separator : Nat} {body : Units} (h : IsStringBody body) :
    PassesQuoted (mark separator) body := by
  induction h with
  | nil => exact Delimited.passesQuoted_nil
  | plain hu _ ih => exact (passesQuoted_of_plainUnit hu).append ih
  | escape e _ ih => exact (Delimited.passesQuoted_escape _ rfl).append ih
  | unicode a b c d _ ih =>
    exact (Delimited.passesQuoted_escape _ rfl).append ((passesQuoted_of_plainUnit (plainUnit_hexDigit a)).append
      ((passesQuoted_of_plainUnit (plainUnit_hexDigit b)).append ((passesQuoted_of_plainUnit (plainUnit_hexDigit c)).append
        ((passesQuoted_of_plainUnit (plainUnit_hexDigit d)).append ih))))

theorem passes_quoted {separator : Nat} {body : Units} (h : IsStringBody body) : Passes (mark separator) (quoted body) :=
  (passesQuoted_of_isStringBody h).quoted rfl

theorem mark_of_blank {unit : Nat} (h : isBlank unit = true) :
    mark ','.toNat unit = .plain ∧ mark ':'.toNat unit = .plain := by
  simp only [isBlank, List.any_cons, List.any_nil, Bool.or_false, Bool.or_eq_true, beq_iff_eq] at h
  rcases h with rfl | rfl | rfl | rfl <;> exact ⟨by decide, by decide⟩

theorem closed_blank {space : Units} (h : Blank space) : Closed space :=
  Delimited.passes_of_plain fun unit hu => (mark_of_blank (h unit hu)).1

theorem mark_of_number {n : JsonText.Number} {unit : Nat} (h : unit ∈ n.chars.map Char.toNat) :
    mark ','.toNat unit = .plain := by
  obtain ⟨c, hc, rfl⟩ := List.mem_map.1 h
  have hsign : ∀ c ∈ ['-', '+', '.', 'e', 'E'], mark ','.toNat c.toNat = .plain := by
    simp only [List.forall_mem_cons, List.not_mem_nil, false_implies, implies_true, and_true]
    decide
  exact JsonText.forall_number (P := fun c => mark ','.toNat c.toNat = .plain) (by decide) hsign n c hc

theorem separator_comma : mark ','.toNat ','.toNat = .separator := rfl

theorem closing_bracket : mark ','.toNat ']'.toNat = .closing := rfl

theorem closed_bracketed {vs : List Units} (h : ∀ v ∈ vs, Closed v) :
    Closed (units "[" ++ joined false vs ++ units "]") :=
  (Delimited.passesInside_joined rfl false vs h).bracketed rfl rfl

theorem closed_braced {vs : List Units} (h : ∀ v ∈ vs, Closed v) :
    Closed (units "\x7b" ++ joined false vs ++ units "\x7d") :=
  (Delimited.passesInside_joined rfl false vs h).bracketed rfl rfl

theorem closed_member {m : Units × Units} (hk : IsKey m.1) (hv : Closed m.2) : Closed (member m) := by
  obtain ⟨before, body, after, hbefore, hbody, hafter, hkey⟩ := hk
  have hcolon : Closed (units ":") := Delimited.passes_of_plain (by decide)
  rw [member, hkey]
  exact ((((closed_blank hbefore).append (passes_quoted hbody)).append (closed_blank hafter)).append hcolon).append hv

/-- **The scanner passes every JSON value.** -/
theorem IsJson.closed {v : Units} (h : IsJson v) : Closed v := by
  induction h with
  | null => exact Delimited.passes_of_plain (by decide)
  | boolean flag => cases flag <;> exact Delimited.passes_of_plain (by decide)
  | number n => exact Delimited.passes_of_plain fun unit => mark_of_number
  | string h => exact passes_quoted h
  | emptyArray h => exact ((closed_blank h).inside).bracketed rfl rfl
  | array vs _ ih => exact closed_bracketed ih
  | emptyObject h => exact ((closed_blank h).inside).bracketed rfl rfl
  | object ms hk _ ih =>
    apply closed_braced
    intro v hv
    obtain ⟨m, hm, rfl⟩ := List.mem_map.1 hv
    exact closed_member (hk m hm) (ih m hm)
  | padded hb _ ha ih => exact ((closed_blank hb).append ih).append (closed_blank ha)

/-! ## What a value begins with -/

/-- A unit that is no white space. -/
def Inked (v : Units) : Prop := ∃ unit ∈ v, isBlank unit = false

theorem Inked.ne_nil {v : Units} (h : Inked v) : v ≠ [] := by
  rintro rfl
  obtain ⟨unit, hu, -⟩ := h
  cases hu

theorem Inked.not_blank {v : Units} (h : Inked v) : ¬ Blank v := by
  intro hblank
  obtain ⟨unit, hu, hink⟩ := h
  rw [hblank unit hu] at hink
  cases hink

theorem Inked.append_left {v : Units} (h : Inked v) (w : Units) : Inked (v ++ w) := by
  obtain ⟨unit, hu, hink⟩ := h
  exact ⟨unit, List.mem_append_left w hu, hink⟩

theorem Inked.append_right {v : Units} (h : Inked v) (w : Units) : Inked (w ++ v) := by
  obtain ⟨unit, hu, hink⟩ := h
  exact ⟨unit, List.mem_append_right w hu, hink⟩

theorem inked_units {text : String} (h : (units text).any (fun unit => !isBlank unit) = true) : Inked (units text) := by
  obtain ⟨unit, hu, hink⟩ := List.any_eq_true.1 h
  exact ⟨unit, hu, by simpa using hink⟩

theorem IsJson.inked {v : Units} (h : IsJson v) : Inked v := by
  induction h with
  | null => exact inked_units (by decide)
  | boolean flag => cases flag <;> exact inked_units (by decide)
  | number n =>
    obtain ⟨d, hd⟩ := JsonText.exists_digit n
    have hink : ∀ d, isBlank (JsonText.digitChar d).toNat = false := by decide
    exact ⟨_, List.mem_map_of_mem hd, hink d⟩
  | string _ => exact ((inked_units (by decide)).append_left _).append_left _
  | emptyArray _ => exact ((inked_units (by decide)).append_left _).append_left _
  | array _ _ _ => exact ((inked_units (by decide)).append_left _).append_left _
  | emptyObject _ => exact ((inked_units (by decide)).append_left _).append_left _
  | object _ _ _ _ => exact ((inked_units (by decide)).append_left _).append_left _
  | padded _ _ _ ih => exact (ih.append_right _).append_left _

theorem IsJson.first {v : Units} (h : IsJson v) : ∃ unit rest, v = unit :: rest ∧
    (isBlank unit = true ∨ unit ∈ units "ntf-0123456789\"[\x7b") := by
  induction h with
  | null => exact ⟨_, _, rfl, Or.inr (by decide)⟩
  | boolean flag => cases flag <;> exact ⟨_, _, rfl, Or.inr (by decide)⟩
  | number n =>
    have hdigit : ∀ d, (JsonText.digitChar d).toNat ∈ units "ntf-0123456789\"[\x7b" := by decide
    obtain ⟨minus, int, fraction, exponent⟩ := n
    cases minus with
    | true => exact ⟨_, _, rfl, Or.inr (by decide)⟩
    | false =>
      cases int with
      | zero => exact ⟨_, _, rfl, Or.inr (hdigit 0)⟩
      | positive first rest => exact ⟨_, _, rfl, Or.inr (hdigit first.succ)⟩
  | string _ => exact ⟨_, _, rfl, Or.inr (by decide)⟩
  | emptyArray _ => exact ⟨_, _, rfl, Or.inr (by decide)⟩
  | array _ _ _ => exact ⟨_, _, rfl, Or.inr (by decide)⟩
  | emptyObject _ => exact ⟨_, _, rfl, Or.inr (by decide)⟩
  | object _ _ _ _ => exact ⟨_, _, rfl, Or.inr (by decide)⟩
  | @padded before v after hb _ ha ih =>
    cases before with
    | cons unit before => exact ⟨unit, before ++ v ++ after, rfl, Or.inl (hb unit List.mem_cons_self)⟩
    | nil =>
      obtain ⟨unit, rest, rfl, hunit⟩ := ih
      exact ⟨unit, rest ++ after, rfl, hunit⟩

/-! ## What a value is made of -/

/-- White space around a text that neither begins nor ends in it is none. -/
theorem eq_of_padded {before v after inner : Units} {first last : Nat} (hb : Blank before) (ha : Blank after)
    (hfirst : isBlank first = false) (hlast : isBlank last = false) (heq : before ++ v ++ after =
      first :: inner ++ [last]) : v = first :: inner ++ [last] := by
  have hbefore : before = [] := by
    cases before with
    | nil => rfl
    | cons unit before =>
      have hunit : unit = first := (List.cons.inj heq).1
      have hblank := hb unit List.mem_cons_self
      rw [hunit, hfirst] at hblank
      cases hblank
  have hafter : after = [] := by
    rcases List.eq_nil_or_concat after with hnil | ⟨rest, unit, hunits⟩
    · exact hnil
    · rw [List.concat_eq_append] at hunits
      rw [hunits, ← List.append_assoc] at heq
      have hunit : unit = last := List.singleton_inj.1 (List.append_inj' heq rfl).2
      have hblank := ha unit (by rw [hunits]; simp)
      rw [hunit, hlast] at hblank
      cases hblank
  rwa [hbefore, hafter, List.nil_append, List.append_nil] at heq

theorem IsJson.bracketed {text : Units} (h : IsJson text) : ∀ {inner : Units},
    text = units "[" ++ inner ++ units "]" → Blank inner ∨ ∃ vs, (∀ v ∈ vs, IsJson v) ∧ inner = joined false vs := by
  induction h with
  | null => intro inner heq; exact absurd (congrArg List.head? heq) (by simp [units])
  | boolean flag => intro inner heq; cases flag <;> exact absurd (congrArg List.head? heq) (by simp [units])
  | number n =>
    intro inner heq
    have hmem : '['.toNat ∈ n.chars.map Char.toNat := by rw [heq]; exact List.mem_cons_self
    exact absurd (mark_of_number hmem) (by decide)
  | string _ => intro inner heq; exact absurd (congrArg List.head? heq) (by simp [quoted, units])
  | emptyArray h =>
    intro inner heq
    rw [List.append_cancel_left (List.append_cancel_right heq)] at h
    exact Or.inl h
  | array vs hv _ =>
    intro inner heq
    exact Or.inr ⟨vs, hv, (List.append_cancel_left (List.append_cancel_right heq)).symm⟩
  | emptyObject _ => intro inner heq; exact absurd (congrArg List.head? heq) (by simp [units])
  | object _ _ _ _ => intro inner heq; exact absurd (congrArg List.head? heq) (by simp [units])
  | padded hb _ ha ih =>
    intro inner heq
    exact ih (eq_of_padded hb ha (by decide) (by decide) heq)

theorem IsJson.braced {text : Units} (h : IsJson text) : ∀ {inner : Units},
    text = units "\x7b" ++ inner ++ units "\x7d" →
      Blank inner ∨ ∃ ms : List (Units × Units), (∀ m ∈ ms, IsKey m.1) ∧ (∀ m ∈ ms, IsJson m.2) ∧
        inner = joined false (ms.map member) := by
  induction h with
  | null => intro inner heq; exact absurd (congrArg List.head? heq) (by simp [units])
  | boolean flag => intro inner heq; cases flag <;> exact absurd (congrArg List.head? heq) (by simp [units])
  | number n =>
    intro inner heq
    have hmem : '\x7b'.toNat ∈ n.chars.map Char.toNat := by rw [heq]; exact List.mem_cons_self
    exact absurd (mark_of_number hmem) (by decide)
  | string _ => intro inner heq; exact absurd (congrArg List.head? heq) (by simp [quoted, units])
  | emptyArray _ => intro inner heq; exact absurd (congrArg List.head? heq) (by simp [units])
  | array _ _ _ => intro inner heq; exact absurd (congrArg List.head? heq) (by simp [units])
  | emptyObject h =>
    intro inner heq
    rw [List.append_cancel_left (List.append_cancel_right heq)] at h
    exact Or.inl h
  | object ms hk hv _ =>
    intro inner heq
    exact Or.inr ⟨ms, hk, hv, (List.append_cancel_left (List.append_cancel_right heq)).symm⟩
  | padded hb _ ha ih =>
    intro inner heq
    exact ih (eq_of_padded hb ha (by decide) (by decide) heq)

theorem inked_joined {vs : List Units} (hv : ∀ v ∈ vs, Inked v) (hne : vs ≠ []) : Inked (joined false vs) := by
  cases vs with
  | nil => exact absurd rfl hne
  | cons v vs =>
    show Inked ([] ++ v ++ joined true vs)
    exact ((hv v List.mem_cons_self).append_right []).append_left _

/-- Texts that the scanner passes, none of them blank: they can be told apart when they are joined. -/
def Separate (vs : List Units) : Prop := ∀ v ∈ vs, Closed v ∧ Inked v

theorem Separate.joined_inj {vs us : List Units} (hv : Separate vs) (hu : Separate us)
    (heq : joined false vs = joined false us) : vs = us := by
  have hne : ∀ {ws : List Units}, Separate ws → ∀ w ∈ ws, Closed w ∧ w ≠ [] := fun hw w hm =>
    ⟨(hw w hm).1, (hw w hm).2.ne_nil⟩
  exact Delimited.joined_unique separator_comma closing_bracket (hne hv) (hne hu) (congrArg (· ++ [']'.toNat]) heq)

theorem separate_of_isJson {vs : List Units} (h : ∀ v ∈ vs, IsJson v) : Separate vs :=
  fun v hv => ⟨(h v hv).closed, (h v hv).inked⟩

/-- The values of an array that is JSON are JSON. -/
theorem IsJson.of_array {vs : List Units} (hs : Separate vs) (h : IsJson (units "[" ++ joined false vs ++ units "]")) :
    ∀ v ∈ vs, IsJson v := by
  rcases h.bracketed rfl with hblank | ⟨us, hus, heq⟩
  · by_cases hne : vs = []
    · simp [hne]
    · exact absurd hblank (inked_joined (fun v hv => (hs v hv).2) hne).not_blank
  · rw [hs.joined_inj (separate_of_isJson hus) heq]
    exact hus

/-- The value of a member of an object that is JSON is JSON. -/
theorem IsJson.of_member {ms : List (Units × Units)} (hk : ∀ m ∈ ms, IsStringBody m.1) (hv : ∀ m ∈ ms, Closed m.2)
    (h : IsJson (units "\x7b" ++ joined false (ms.map fun m => member (quoted m.1, m.2)) ++ units "\x7d")) :
    ∀ m ∈ ms, IsJson m.2 := by
  have hs : Separate (ms.map fun m => member (quoted m.1, m.2)) := by
    intro v hm
    obtain ⟨m, hmem, rfl⟩ := List.mem_map.1 hm
    have hinked : Inked (units "\"") := inked_units (by decide)
    exact ⟨closed_member (isKey_quoted (hk m hmem)) (hv m hmem),
      (((hinked.append_left _).append_left _).append_left _).append_left _⟩
  rcases h.braced rfl with hblank | ⟨us, huk, huv, heq⟩
  · by_cases hne : ms = []
    · simp [hne]
    · exact absurd hblank (inked_joined (fun v hv => (hs v hv).2) (by simpa using hne)).not_blank
  · have hus : Separate (us.map member) := by
      intro v hm
      obtain ⟨u, hu, rfl⟩ := List.mem_map.1 hm
      exact ⟨closed_member (huk u hu) (huv u hu).closed, (huv u hu).inked.append_right _⟩
    have hsame := hs.joined_inj hus heq
    intro m hm
    have hmem : member (quoted m.1, m.2) ∈ us.map member := by
      rw [← hsame]
      exact List.mem_map_of_mem hm
    obtain ⟨u, hu, hequ⟩ := List.mem_map.1 hmem
    obtain ⟨before, body, after, hbefore, hbody, hafter, hkey⟩ := huk u hu
    -- a colon stands behind each of the two names, and a scanner that reads up to it passes both
    have hpass : Passes (mark ':'.toNat) u.1 := by
      rw [hkey]
      exact ((Delimited.passes_of_plain fun unit h => (mark_of_blank (hbefore unit h)).2).append
        (passes_quoted hbody)).append (Delimited.passes_of_plain fun unit h => (mark_of_blank (hafter unit h)).2)
    have hcolons : u.1 ++ ':'.toNat :: u.2 = quoted m.1 ++ ':'.toNat :: m.2 := by
      simpa [member, units] using hequ
    obtain ⟨-, -, hvalue⟩ := hpass.unique (passes_quoted (hk m hm)) (Or.inl rfl) (Or.inl rfl) hcolons
    rw [← hvalue]
    exact huv u hu

end BodyCapture
end Graftcode
