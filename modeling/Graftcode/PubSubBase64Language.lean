import Mathlib.Logic.Relation
import Graftcode.PubSubBase64
/-!
# PubSubBase64Language — the texts that `Base64Decode` accepts

Edits that leave what a text encodes leave what it decodes to (`base64_round_trip`).  The decoder also accepts texts that
encode nothing: it drops the bits that fill no octet and any run of trailing `=` (`accepts_exactly_iff`).
-/
namespace Graftcode
namespace PubSub

open Rfc4648 (sextets octets spare padding standardTable urlSafeTable Writes WritesEither Encodes)

/-! ## Edits -/

/-- One edit of an encoded text that leaves what it encodes. -/
inductive Edit : Text → Text → Prop where
  | blank (pre post : Text) (c : Char) (hc : isBlank c = true) : Edit (pre ++ post) (pre ++ c :: post)
  | unpad (pre post : Text) (hpost : ∀ c ∈ post, isBlank c = true) : Edit (pre ++ '=' :: post) (pre ++ post)
  | dash (pre post : Text) : Edit (pre ++ '+' :: post) (pre ++ '-' :: post)
  | underscore (pre post : Text) : Edit (pre ++ '/' :: post) (pre ++ '_' :: post)

theorem dropBlanks_append (s t : Text) : dropBlanks (s ++ t) = dropBlanks s ++ dropBlanks t := List.filter_append ..

theorem dropBlanks_cons {c : Char} (hc : isBlank c = false) (t : Text) : dropBlanks (c :: t) = c :: dropBlanks t :=
  List.filter_cons_of_pos (by rw [hc]; rfl)

theorem dropBlanks_eq_nil {t : Text} (ht : ∀ c ∈ t, isBlank c = true) : dropBlanks t = [] :=
  List.filter_eq_nil_iff.2 fun c hc => by simp [ht c hc]

theorem not_mem_replicate {c : Char} (hc : c ≠ '=') (k : Nat) : c ∉ List.replicate k '=' :=
  fun h => hc (List.eq_of_mem_replicate h)

/-- A character before the padding stands in the body. -/
theorem split_body {P Q body : Text} {c : Char} {k : Nat} (hc : c ≠ '=')
    (h : P ++ c :: Q = body ++ List.replicate k '=') :
    ∃ Q', body = P ++ c :: Q' ∧ Q = Q' ++ List.replicate k '=' := by
  rcases List.append_eq_append_iff.1 h with ⟨a, hbody, hrest⟩ | ⟨a, hP, hrest⟩
  · cases a with
    | nil =>
      have hmem : c ∈ List.replicate k '=' := by
        rw [List.nil_append] at hrest
        rw [← hrest]
        exact List.mem_cons_self
      exact absurd hmem (not_mem_replicate hc k)
    | cons d a =>
      rw [List.cons_append, List.cons.injEq] at hrest
      obtain ⟨rfl, hQ⟩ := hrest
      exact ⟨a, hbody, hQ⟩
  · have hmem : c ∈ List.replicate k '=' := by
      rw [hrest]
      simp
    exact absurd hmem (not_mem_replicate hc k)

theorem Reads.swap {c d : Char} (hcd : base64Value c = base64Value d) (Q : Text) : ∀ {P : Text} {values : List Nat},
    Reads (P ++ c :: Q) values → Reads (P ++ d :: Q) values
  | [], _, .cons hv hrest    => .cons (hcd ▸ hv) hrest
  | _ :: _, _, .cons hv hrest => .cons hv (Reads.swap hcd Q hrest)

theorem decode_swap {c d : Char} {v : Nat} (hc : base64Value c = some v) (hd : base64Value d = some v) (pre post : Text)
    {bytes : Bytes} (h : base64Decode (pre ++ c :: post) = .ok bytes) : base64Decode (pre ++ d :: post) = .ok bytes := by
  obtain ⟨body, k, values, hdrop, hreads, hbytes⟩ := base64Decode_iff.1 h
  have hcb : isBlank c = false := not_blank_of_value (Or.inr (by rw [hc]; rfl))
  have hdb : isBlank d = false := not_blank_of_value (Or.inr (by rw [hd]; rfl))
  rw [dropBlanks_append, dropBlanks_cons hcb] at hdrop
  obtain ⟨Q, rfl, hQ⟩ := split_body (base64Value_ne_pad hc) hdrop
  refine base64Decode_iff.2 ⟨dropBlanks pre ++ d :: Q, k, values, ?_, hreads.swap (hc.trans hd.symm), hbytes⟩
  rw [dropBlanks_append, dropBlanks_cons hdb, hQ, List.append_assoc, List.cons_append]

/-- An edit leaves what the decoder returns. -/
theorem decode_edit {s t : Text} {bytes : Bytes} (hedit : Edit s t) (h : base64Decode s = .ok bytes) :
    base64Decode t = .ok bytes := by
  cases hedit with
  | blank pre post c hc =>
    have hdrop : dropBlanks (pre ++ c :: post) = dropBlanks (pre ++ post) := by
      rw [dropBlanks_append, dropBlanks_append, dropBlanks, dropBlanks, dropBlanks,
        List.filter_cons_of_neg (by simp [hc])]
    rw [base64Decode_iff, ← hdrop] at h
    exact base64Decode_iff.2 h
  | unpad pre post hpost =>
    obtain ⟨body, k, values, hdrop, hreads, hbytes⟩ := base64Decode_iff.1 h
    have hpad : isBlank '=' = false := by decide
    rw [dropBlanks_append, dropBlanks_cons hpad, dropBlanks_eq_nil hpost] at hdrop
    cases k with
    | zero =>
      -- without padding the last character of the body would be `=`
      rw [List.replicate_zero, List.append_nil] at hdrop
      have hmem : '=' ∈ body := by
        rw [← hdrop]
        simp
      exact absurd rfl (hreads.forall_ne_pad _ hmem)
    | succ k =>
      rw [List.replicate_succ', ← List.append_assoc] at hdrop
      have hpre := (List.append_inj' hdrop rfl).1
      refine base64Decode_iff.2 ⟨body, k, values, ?_, hreads, hbytes⟩
      rw [dropBlanks_append, dropBlanks_eq_nil hpost, List.append_nil, hpre]
  | dash pre post => exact decode_swap (v := 62) (by decide) (by decide) pre post h
  | underscore pre post => exact decode_swap (v := 63) (by decide) (by decide) pre post h

/-- **The round trip**, also after any number of edits; and the accumulator of 32 bits gives what an unbounded one
would. -/
theorem base64_round_trip :
    (∀ bytes, base64Decode (base64Encode bytes) = .ok bytes) ∧
    (∀ bytes text, Relation.ReflTransGen Edit (base64Encode bytes) text → base64Decode text = .ok bytes) ∧
    ∀ text, base64Decode text =
      (base64Filter text).bind fun filtered => decodeUnbounded 0 0 (stripPadding filtered) := by
  refine ⟨base64Decode_encode, fun bytes text hedits => ?_, fun text => ?_⟩
  · induction hedits with
    | refl => exact base64Decode_encode bytes
    | tail _ hedit ih => exact decode_edit hedit ih
  · unfold base64Decode
    cases base64Filter text with
    | error e => rfl
    | ok filtered => exact decodeFrom_eq _ 0 0 0 (by decide) rfl

/-- `Pj8=` and `++8=`, edited. -/
theorem base64_round_trip_edited :
    base64Decode "Pj8 ".toList = .ok [62, 63] ∧ base64Decode "-\n-8".toList = .ok [251, 239] :=
  ⟨base64_round_trip.2.1 [62, 63] _
      (((Relation.ReflTransGen.refl.tail (Edit.unpad "Pj8".toList [] (by simp))).tail
        (Edit.blank "Pj8".toList [] ' ' (by decide)))),
    base64_round_trip.2.1 [251, 239] _
      ((((Relation.ReflTransGen.refl.tail (Edit.unpad "++8".toList [] (by simp))).tail
        (Edit.dash [] "+8".toList)).tail (Edit.dash "-".toList "8".toList)).tail
        (Edit.blank "-".toList "-8".toList '\n' (by decide)))⟩

/-! ## The accepted texts -/

/-- The decoder accepts `text` if and only if it encodes something once the blanks are gone, and returns that. -/
def AcceptsExactly (encodes : Text → Bytes → Prop) (text : Text) : Prop :=
  ((∃ bytes, base64Decode text = .ok bytes) ↔ ∃ bytes, encodes (dropBlanks text) bytes) ∧
    ∀ bytes, encodes (dropBlanks text) bytes → base64Decode text = .ok bytes

/-- An encoding all of whose characters are of the standard alphabet, or all of the URL-safe one. -/
def EncodesInOne (text : Text) (bytes : Bytes) : Prop :=
  Encodes (Writes standardTable) text bytes ∨ Encodes (Writes urlSafeTable) text bytes

/-- Characters of the alphabets, then a run of `=`: the texts the decoder accepts. -/
def Readable (text : Text) (body : Text) (k : Nat) (values : List Nat) : Prop :=
  dropBlanks text = body ++ List.replicate k '=' ∧ Reads body values

/-- A readable text that encodes nothing: one character more than whole groups, bits that fill no octet, or padding that
is neither absent nor right. -/
def Slack (text : Text) : Prop :=
  ∃ body k values, Readable text body k values ∧
    (values.length % 4 = 1 ∨ spare values ≠ 0 ∨ k ≠ 0 ∧ k ≠ padding values.length)

/-- Characters that only one of the alphabets has, from both. -/
def Mixes (text : Text) : Prop := (∃ c ∈ text, c = '+' ∨ c = '/') ∧ ∃ c ∈ text, c = '-' ∨ c = '_'

theorem decode_readable {text body : Text} {k : Nat} {values : List Nat} (h : Readable text body k values) :
    base64Decode text = .ok (octets values) := base64Decode_iff.2 ⟨body, k, values, h.1, h.2, rfl⟩

theorem Reads.unique {body : Text} {values values' : List Nat} (h : Reads body values) (h' : Reads body values') :
    values = values' := by
  induction h generalizing values' with
  | nil =>
    cases h'
    rfl
  | cons hv _ ih =>
    cases h' with
    | cons hv' hrest' => rw [ih hrest', Option.some.inj (hv.symm.trans hv')]

theorem Reads.lt {body : Text} {values : List Nat} (h : Reads body values) : ∀ v ∈ values, v < 64 := by
  induction h with
  | nil => exact fun v hv => by cases hv
  | cons hv _ ih =>
    intro w hw
    rcases List.mem_cons.1 hw with rfl | hw
    · exact base64Value_lt hv
    · exact ih w hw

theorem Readable.unique {text body body' : Text} {k k' : Nat} {values values' : List Nat}
    (h : Readable text body k values) (h' : Readable text body' k' values') :
    body = body' ∧ k = k' ∧ values = values' := by
  obtain ⟨rfl, rfl⟩ := Rfc4648.split_unique h.2.forall_ne_pad h'.2.forall_ne_pad (h.1.symm.trans h'.1)
  exact ⟨rfl, rfl, h.2.unique h'.2⟩

/-- An encoding is a readable text that drops nothing. -/
theorem encodes_iff {text : Text} {bytes : Bytes} : Encodes WritesEither (dropBlanks text) bytes ↔
    ∃ body k values, Readable text body k values ∧ octets values = bytes ∧
      values.length % 4 ≠ 1 ∧ spare values = 0 ∧ (k = 0 ∨ k = padding values.length) := by
  constructor
  · rintro ⟨body, k, hdrop, hwrites, hk⟩
    have hreads : Reads body (sextets bytes) := hwrites.imp fun c v hcv => writesEither_iff.1 hcv
    have hoctets := Rfc4648.octets_sextets bytes
    have hwhole := (Rfc4648.sextets_octets_iff _ hreads.lt).1 (by rw [hoctets])
    rw [hwrites.length_eq] at hk
    exact ⟨body, k, sextets bytes, ⟨hdrop, hreads⟩, hoctets, hwhole.1, hwhole.2, hk⟩
  · rintro ⟨body, k, values, ⟨hdrop, hreads⟩, rfl, hlen, hspare, hk⟩
    have hwhole := (Rfc4648.sextets_octets_iff _ hreads.lt).2 ⟨hlen, hspare⟩
    rw [← hreads.length_eq] at hk
    refine ⟨body, k, hdrop, ?_, hk⟩
    rw [hwhole]
    exact hreads.imp fun c v hcv => writesEither_iff.2 hcv

theorem decode_encodes {text : Text} {bytes : Bytes} (h : Encodes WritesEither (dropBlanks text) bytes) :
    base64Decode text = .ok bytes := by
  obtain ⟨body, k, values, hread, rfl, -⟩ := encodes_iff.1 h
  exact decode_readable hread

/-- What is accepted and is not slack is an encoding, and no slack text is one. -/
theorem not_slack_iff {text : Text} {bytes : Bytes} (h : base64Decode text = .ok bytes) :
    ¬ Slack text ↔ Encodes WritesEither (dropBlanks text) bytes := by
  rw [encodes_iff]
  constructor
  · intro hslack
    obtain ⟨body, k, values, hdrop, hreads, hoctets⟩ := base64Decode_iff.1 h
    have hread : Readable text body k values := ⟨hdrop, hreads⟩
    have hlen : values.length % 4 ≠ 1 := fun hc => hslack ⟨body, k, values, hread, Or.inl hc⟩
    have hspare : spare values = 0 := by
      by_contra hc
      exact hslack ⟨body, k, values, hread, Or.inr (Or.inl hc)⟩
    have hk : k = 0 ∨ k = padding values.length := by
      by_contra hc
      rw [not_or] at hc
      exact hslack ⟨body, k, values, hread, Or.inr (Or.inr hc)⟩
    exact ⟨body, k, values, hread, hoctets, hlen, hspare, hk⟩
  · rintro ⟨body, k, values, hread, -, hlen, hspare, hk⟩ ⟨body', k', values', hread', hslack⟩
    obtain ⟨rfl, rfl, rfl⟩ := hread.unique hread'
    rcases hslack with hc | hc | ⟨hc0, hc⟩
    · exact hlen hc
    · exact hc hspare
    · rcases hk with hk | hk
      · exact hc0 hk
      · exact hc hk

theorem Slack.decodes {text : Text} (h : Slack text) : ∃ bytes, base64Decode text = .ok bytes := by
  obtain ⟨body, k, values, hread, -⟩ := h
  exact ⟨octets values, decode_readable hread⟩

/-! ### One alphabet -/

/-- An alphabet without the characters `own` writes what another one writes without them. -/
theorem writes_of_agree {table other : List Char} {own : Char → Bool}
    (hagree : ∀ n < 64, (other[n]?.all fun d => own d || table[n]? == some d) = true) {c : Char} {v : Nat} (hv : v < 64)
    (h : Writes other c v) (hc : own c = false) : Writes table c v := by
  have hn := hagree v hv
  rw [show other[v]? = some c from h, Option.all_some, hc, Bool.false_or] at hn
  exact eq_of_beq hn

theorem not_own_of_writes {table : List Char} {own : Char → Bool} (hno : (table.all fun d => !own d) = true) {c : Char}
    {v : Nat} (h : Writes table c v) : own c = false := by
  have hc := List.all_eq_true.1 hno c (List.mem_of_getElem? h)
  simpa using hc

theorem writes_standard_iff {c : Char} {v : Nat} :
    Writes standardTable c v ↔ WritesEither c v ∧ ¬ (c = '-' ∨ c = '_') := by
  have hno : (standardTable.all fun d => !(d == '-' || d == '_')) = true := by decide +kernel
  have hagree : ∀ n < 64, (urlSafeTable[n]?.all fun d => (d == '-' || d == '_') || standardTable[n]? == some d) = true := by
    decide +kernel
  have hown : ¬ (c = '-' ∨ c = '_') ↔ (c == '-' || c == '_') = false := by simp
  rw [hown]
  constructor
  · intro h
    exact ⟨Or.inl h, not_own_of_writes hno h⟩
  · rintro ⟨h | h, hc⟩
    · exact h
    · exact writes_of_agree hagree (List.getElem?_eq_some_iff.1 h).1 h hc

theorem writes_urlSafe_iff {c : Char} {v : Nat} :
    Writes urlSafeTable c v ↔ WritesEither c v ∧ ¬ (c = '+' ∨ c = '/') := by
  have hno : (urlSafeTable.all fun d => !(d == '+' || d == '/')) = true := by decide +kernel
  have hagree : ∀ n < 64, (standardTable[n]?.all fun d => (d == '+' || d == '/') || urlSafeTable[n]? == some d) = true := by
    decide +kernel
  have hown : ¬ (c = '+' ∨ c = '/') ↔ (c == '+' || c == '/') = false := by simp
  rw [hown]
  constructor
  · intro h
    exact ⟨Or.inr h, not_own_of_writes hno h⟩
  · rintro ⟨h | h, hc⟩
    · exact writes_of_agree hagree (List.getElem?_eq_some_iff.1 h).1 h hc
    · exact h

theorem forall₂_and {writes writes' : Char → Nat → Prop} {P : Char → Prop} (h : ∀ c v, writes c v ↔ writes' c v ∧ P c)
    {body : Text} {values : List Nat} :
    List.Forall₂ writes body values ↔ List.Forall₂ writes' body values ∧ ∀ c ∈ body, P c := by
  constructor
  · intro hw
    induction hw with
    | nil => exact ⟨.nil, fun c hc => by cases hc⟩
    | cons hcv _ ih =>
      refine ⟨.cons ((h _ _).1 hcv).1 ih.1, fun c hc => ?_⟩
      rcases List.mem_cons.1 hc with rfl | hc
      · exact ((h _ _).1 hcv).2
      · exact ih.2 c hc
  · rintro ⟨hw, hP⟩
    induction hw with
    | nil => exact .nil
    | cons hcv _ ih =>
      exact .cons ((h _ _).2 ⟨hcv, hP _ List.mem_cons_self⟩) (ih fun c hc => hP c (List.mem_cons_of_mem _ hc))

theorem encodes_and {writes writes' : Char → Nat → Prop} {P : Char → Prop} (h : ∀ c v, writes c v ↔ writes' c v ∧ P c)
    (hpad : P '=') {text : Text} {bytes : Bytes} :
    Encodes writes text bytes ↔ Encodes writes' text bytes ∧ ∀ c ∈ text, P c := by
  constructor
  · rintro ⟨body, k, rfl, hwrites, hk⟩
    obtain ⟨hwrites', hP⟩ := (forall₂_and h).1 hwrites
    refine ⟨⟨body, k, rfl, hwrites', hk⟩, fun c hc => ?_⟩
    rcases List.mem_append.1 hc with hc | hc
    · exact hP c hc
    · rw [List.eq_of_mem_replicate hc]
      exact hpad
  · rintro ⟨⟨body, k, rfl, hwrites, hk⟩, hP⟩
    have hbody := (forall₂_and h).2 ⟨hwrites, fun c hc => hP c (List.mem_append_left _ hc)⟩
    exact ⟨body, k, rfl, hbody, hk⟩

theorem mixes_dropBlanks (text : Text) : Mixes (dropBlanks text) ↔ Mixes text := by
  have hmem : ∀ {c : Char}, isBlank c = false → (c ∈ dropBlanks text ↔ c ∈ text) := fun hc => by
    rw [dropBlanks, List.mem_filter, hc]
    simp
  have hplus : ∀ {c : Char}, c = '+' ∨ c = '/' → isBlank c = false := by
    rintro c (rfl | rfl) <;> decide
  have hdash : ∀ {c : Char}, c = '-' ∨ c = '_' → isBlank c = false := by
    rintro c (rfl | rfl) <;> decide
  constructor
  · rintro ⟨⟨c, hc, hcv⟩, d, hd, hdv⟩
    exact ⟨⟨c, (hmem (hplus hcv)).1 hc, hcv⟩, d, (hmem (hdash hdv)).1 hd, hdv⟩
  · rintro ⟨⟨c, hc, hcv⟩, d, hd, hdv⟩
    exact ⟨⟨c, (hmem (hplus hcv)).2 hc, hcv⟩, d, (hmem (hdash hdv)).2 hd, hdv⟩

theorem encodesInOne_iff {text : Text} {bytes : Bytes} :
    EncodesInOne text bytes ↔ Encodes WritesEither text bytes ∧ ¬ Mixes text := by
  have hstd : Encodes (Writes standardTable) text bytes ↔
      Encodes WritesEither text bytes ∧ ∀ c ∈ text, ¬ (c = '-' ∨ c = '_') :=
    encodes_and (P := fun c => ¬ (c = '-' ∨ c = '_')) (fun _ _ => writes_standard_iff) (by decide)
  have hurl : Encodes (Writes urlSafeTable) text bytes ↔
      Encodes WritesEither text bytes ∧ ∀ c ∈ text, ¬ (c = '+' ∨ c = '/') :=
    encodes_and (P := fun c => ¬ (c = '+' ∨ c = '/')) (fun _ _ => writes_urlSafe_iff) (by decide)
  rw [EncodesInOne, hstd, hurl, ← and_or_left]
  refine and_congr_right fun _ => ?_
  constructor
  · rintro (h | h) ⟨⟨c, hc, hcv⟩, d, hd, hdv⟩
    · exact h d hd hdv
    · exact h c hc hcv
  · intro h
    by_cases hd : ∃ d ∈ text, d = '-' ∨ d = '_'
    · exact Or.inr fun c hc hcv => h ⟨⟨c, hc, hcv⟩, hd⟩
    · exact Or.inl fun d hmem hdv => hd ⟨d, hmem, hdv⟩

/-! ### The language -/

theorem acceptsExactly_of {encodes : Text → Bytes → Prop} {text : Text}
    (hsound : ∀ bytes, encodes (dropBlanks text) bytes → base64Decode text = .ok bytes) :
    AcceptsExactly encodes text ↔ ∀ bytes, base64Decode text = .ok bytes → encodes (dropBlanks text) bytes := by
  constructor
  · rintro ⟨hiff, -⟩ bytes h
    obtain ⟨bytes', h'⟩ := hiff.1 ⟨bytes, h⟩
    have heq := (hsound bytes' h').symm.trans h
    cases heq
    exact h'
  · intro h
    exact ⟨⟨fun ⟨bytes, hb⟩ => ⟨bytes, h bytes hb⟩, fun ⟨bytes, hb⟩ => ⟨bytes, hsound bytes hb⟩⟩, hsound⟩

/-- **The language of the decoder**: exactly Base64, except for slack texts; and a text that mixes the two alphabets is
accepted like any other. -/
theorem accepts_exactly_iff (text : Text) :
    (AcceptsExactly (Encodes WritesEither) text ↔ ¬ Slack text) ∧
    (AcceptsExactly EncodesInOne text ↔
      ¬ Slack text ∧ ¬ (Mixes text ∧ ∃ body k values, Readable text body k values)) := by
  constructor
  · rw [acceptsExactly_of fun bytes h => decode_encodes h]
    constructor
    · intro h hslack
      obtain ⟨bytes, hb⟩ := hslack.decodes
      exact (not_slack_iff hb).2 (h bytes hb) hslack
    · exact fun h bytes hb => (not_slack_iff hb).1 h
  · rw [acceptsExactly_of fun bytes h => decode_encodes (encodesInOne_iff.1 h).1]
    constructor
    · intro h
      constructor
      · intro hslack
        obtain ⟨bytes, hb⟩ := hslack.decodes
        exact (not_slack_iff hb).2 (encodesInOne_iff.1 (h bytes hb)).1 hslack
      · rintro ⟨hmixes, body, k, values, hread⟩
        have hone := h _ (decode_readable hread)
        exact (encodesInOne_iff.1 hone).2 ((mixes_dropBlanks text).2 hmixes)
    · rintro ⟨hslack, hmixes⟩ bytes hb
      obtain ⟨body, k, values, hdrop, hreads, -⟩ := base64Decode_iff.1 hb
      refine encodesInOne_iff.2 ⟨(not_slack_iff hb).1 hslack, fun hm => hmixes ⟨?_, body, k, values, hdrop, hreads⟩⟩
      exact (mixes_dropBlanks text).1 hm

/-- `A` decodes to nothing, and is no encoding. -/
theorem not_accepts_exactly_lone : ¬ AcceptsExactly (Encodes WritesEither) "A".toList := by
  rintro ⟨hiff, -⟩
  obtain ⟨bytes, body, k, hbody, hwrites, -⟩ := hiff.1 ⟨[], rfl⟩
  have hlen := Rfc4648.length_sextets_ne bytes
  rw [← hwrites.length_eq] at hlen
  have hA : dropBlanks "A".toList = ['A'] := rfl
  rw [hA] at hbody
  have hk : k = 0 ∨ k = 1 := by
    have := congrArg List.length hbody
    simp at this
    omega
  rcases hk with rfl | rfl
  · rw [List.replicate_zero, List.append_nil] at hbody
    exact hlen (by rw [← hbody]; rfl)
  · have := (List.append_inj' (show [] ++ ['A'] = body ++ ['='] from hbody) rfl).2
    cases this

end PubSub
end Graftcode
