import Graftcode.Rfc4648
import Graftcode.SqsUtil
/-!
# SqsPayload — the bodies of SQS messages

`EncodePayload` and `DecodePayload`, and the guard before the decoder of the SDK.  `IsValidBase64` sees to the alphabet
and to the place of the padding, and does not count it.
-/
namespace Graftcode
namespace Sqs

open Rfc4648 (standardTable padding sextets)

/-! ## The guard -/

/-- RFC 4648, padded, in the standard alphabet, up to the unused low bits of the last character. -/
def IsBase64 (text : Text) : Prop :=
  ∃ bytes, Rfc4648.EncodesLoosely (Rfc4648.Writes standardTable) text bytes

/-- Characters of the alphabet, then `k` times `=`, in whole groups of four. -/
structure Filled (text : Text) (k : Nat) : Prop where
  groups : text.length % 4 = 0
  splits : ∃ body, text = body ++ List.replicate k '=' ∧ ∀ c ∈ body, c ∈ standardTable

/-- More padding than a group can have. -/
def OverPadded (text : Text) : Prop := ∃ k, 3 ≤ k ∧ Filled text k

theorem isAlphanum_lt {c : Char} (h : c.isAlphanum = true) : c.toNat < 123 := by
  have hZ : 'Z'.val.toNat = 90 := rfl
  have hz : 'z'.val.toNat = 122 := rfl
  have h9 : '9'.val.toNat = 57 := rfl
  have hval : c.val.toNat = c.toNat := rfl
  delta Char.isAlphanum Char.isAlpha Char.isUpper Char.isLower Char.isDigit at h
  simp only [Bool.or_eq_true, Bool.and_eq_true, decide_eq_true_eq, UInt32.le_iff_toNat_le, hval, hZ, hz, h9] at h
  omega

theorem alphabet_iff {c : Char} : (c.isAlphanum || c = '+' || c = '/') = true ↔ c ∈ standardTable := by
  constructor
  · intro h
    have hlt : c.toNat < 123 := by
      simp only [Bool.or_eq_true, decide_eq_true_eq] at h
      rcases h with (h | rfl) | rfl
      · exact isAlphanum_lt h
      · decide
      · decide
    have hall : ∀ n < 123, ((Char.ofNat n).isAlphanum || Char.ofNat n = '+' || Char.ofNat n = '/') = true →
        Char.ofNat n ∈ standardTable := by
      decide +kernel
    have := hall c.toNat hlt
    rw [Char.ofNat_toNat] at this
    exact this h
  · have hall : ∀ c ∈ standardTable, (c.isAlphanum || c = '+' || c = '/') = true :=
      List.all_eq_true.1 (by decide +kernel)
    exact hall c

theorem pad_not_mem : '=' ∉ standardTable := by decide

theorem base64From_true : ∀ {text : Text}, base64From true text = true ↔ ∃ k, text = List.replicate k '='
  | []      => iff_of_true rfl ⟨0, rfl⟩
  | c :: cs => by
    rw [base64From]
    by_cases hc : c = '='
    · subst hc
      rw [if_pos rfl, base64From_true]
      constructor
      · rintro ⟨k, rfl⟩
        exact ⟨k + 1, rfl⟩
      · rintro ⟨k, hk⟩
        cases k with
        | zero   => cases hk
        | succ k => exact ⟨k, (List.cons.inj hk).2⟩
    · rw [if_neg hc, if_pos rfl]
      apply iff_of_false Bool.false_ne_true
      rintro ⟨k, hk⟩
      cases k with
      | zero   => cases hk
      | succ k => exact hc (List.cons.inj hk).1

/-- The loop accepts characters of the alphabet, then nothing but padding. -/
theorem base64From_false : ∀ {text : Text}, base64From false text = true ↔
    ∃ body k, text = body ++ List.replicate k '=' ∧ ∀ c ∈ body, c ∈ standardTable
  | []      => iff_of_true rfl ⟨[], 0, rfl, fun _ hc => absurd hc List.not_mem_nil⟩
  | c :: cs => by
    rw [base64From]
    by_cases hc : c = '='
    · subst hc
      rw [if_pos rfl, base64From_true]
      constructor
      · rintro ⟨k, rfl⟩
        exact ⟨[], k + 1, rfl, fun _ hc => absurd hc List.not_mem_nil⟩
      · rintro ⟨body, k, hk, hbody⟩
        cases body with
        | nil =>
          cases k with
          | zero   => cases hk
          | succ k => exact ⟨k, (List.cons.inj hk).2⟩
        | cons d body =>
          obtain ⟨hd, -⟩ := List.cons.inj hk
          exact absurd (hbody d List.mem_cons_self) (hd ▸ pad_not_mem)
    · rw [if_neg hc, if_neg Bool.false_ne_true]
      by_cases halpha : (c.isAlphanum || c = '+' || c = '/') = true
      · have hmem := alphabet_iff.1 halpha
        rw [if_pos (by simpa using halpha), base64From_false]
        constructor
        · rintro ⟨body, k, rfl, hbody⟩
          exact ⟨c :: body, k, rfl, List.forall_mem_cons.2 ⟨hmem, hbody⟩⟩
        · rintro ⟨body, k, hk, hbody⟩
          cases body with
          | nil =>
            cases k with
            | zero   => cases hk
            | succ k => exact absurd (List.cons.inj hk).1 hc
          | cons d body => exact ⟨body, k, (List.cons.inj hk).2, (List.forall_mem_cons.1 hbody).2⟩
      · rw [if_neg (by simpa using halpha)]
        apply iff_of_false Bool.false_ne_true
        rintro ⟨body, k, hk, hbody⟩
        cases body with
        | nil =>
          cases k with
          | zero   => cases hk
          | succ k => exact hc (List.cons.inj hk).1
        | cons d body =>
          obtain ⟨rfl, -⟩ := List.cons.inj hk
          exact halpha (alphabet_iff.2 (hbody c List.mem_cons_self))

theorem isValidBase64_iff {text : Text} : isValidBase64 text = true ↔ ∃ k, Filled text k := by
  unfold isValidBase64
  by_cases hnil : text = []
  · subst hnil
    exact iff_of_true rfl ⟨0, rfl, [], rfl, fun _ hc => absurd hc List.not_mem_nil⟩
  · have hempty : ¬ text.isEmpty = true := by simpa using hnil
    rw [if_neg hempty]
    by_cases hlen : text.length % 4 = 0
    · rw [if_neg (not_not.2 hlen), base64From_false]
      constructor
      · rintro ⟨body, k, h⟩
        exact ⟨k, hlen, body, h⟩
      · rintro ⟨k, -, body, h⟩
        exact ⟨body, k, h⟩
    · rw [if_pos hlen]
      exact iff_of_false Bool.false_ne_true fun ⟨k, h⟩ => hlen h.groups

theorem Filled.unique {text : Text} {k k' : Nat} (h : Filled text k) (h' : Filled text k') : k = k' := by
  obtain ⟨-, body, htext, hbody⟩ := h
  obtain ⟨-, body', htext', hbody'⟩ := h'
  have hne : ∀ {body : Text}, (∀ c ∈ body, c ∈ standardTable) → ∀ c ∈ body, c ≠ '=' :=
    fun hb c hc heq => pad_not_mem (heq ▸ hb c hc)
  exact (Rfc4648.split_unique (hne hbody) (hne hbody') (htext.symm.trans htext')).2

/-- **The form by its length and its characters**: at most the last two may be padding. -/
theorem isBase64_iff {text : Text} : IsBase64 text ↔ ∃ k ≤ 2, Filled text k := by
  constructor
  · rintro ⟨bytes, body, values, rfl, hwrites, hspare⟩
    have hlen : body.length % 4 ≠ 1 := by
      rw [hwrites.length_eq, ← Rfc4648.length_clearSpare, hspare]
      exact Rfc4648.length_sextets_ne bytes
    refine ⟨padding body.length, ?_, ?_, body, rfl, Rfc4648.exists_writes_iff.1 ⟨values, hwrites⟩⟩
    · unfold padding
      omega
    · rw [List.length_append, List.length_replicate, padding]
      omega
  · rintro ⟨k, hk, hgroups, body, rfl, hbody⟩
    obtain ⟨values, hwrites⟩ := Rfc4648.exists_writes_iff.2 hbody
    rw [List.length_append, List.length_replicate] at hgroups
    have hpadding : k = padding body.length := by
      unfold padding
      omega
    have hlen : values.length % 4 ≠ 1 := by
      rw [← hwrites.length_eq]
      omega
    exact ⟨Rfc4648.octets values, body, values, by rw [hpadding], hwrites,
      (Rfc4648.sextets_octets (Rfc4648.writes_lt hwrites) hlen).symm⟩

theorem OverPadded.not_isBase64 {text : Text} (h : OverPadded text) : ¬ IsBase64 text := by
  obtain ⟨k, hk, hfilled⟩ := h
  intro hbase
  obtain ⟨k', hk', hfilled'⟩ := isBase64_iff.1 hbase
  have := hfilled.unique hfilled'
  omega

/-- The guard lets Base64 through, and what is padded too much. -/
theorem isValidBase64_cases {text : Text} : isValidBase64 text = true ↔ IsBase64 text ∨ OverPadded text := by
  rw [isValidBase64_iff, isBase64_iff]
  constructor
  · rintro ⟨k, h⟩
    by_cases hk : k ≤ 2
    · exact Or.inl ⟨k, hk, h⟩
    · exact Or.inr ⟨k, by omega, h⟩
  · rintro (⟨k, -, h⟩ | ⟨k, -, h⟩)
    · exact ⟨k, h⟩
    · exact ⟨k, h⟩

theorem isValidBase64_exact_iff (text : Text) :
    (isValidBase64 text = true ↔ IsBase64 text) ↔ ¬ OverPadded text := by
  rw [isValidBase64_cases]
  constructor
  · exact fun h hover => hover.not_isBase64 (h.1 (Or.inr hover))
  · exact fun hover => ⟨fun h => h.resolve_right hover, Or.inl⟩

/-! ## The decoder behind it -/

/-- What `DecodePayload` makes of what follows the prefix. -/
def decodeEncoded (sdk : Sdk) (encoded : Text) : Except Text Bytes :=
  if !isValidBase64 encoded then .error "SQS plugin: message body is not valid base64".toList
  else if (sdk.base64Decode encoded).isEmpty then
    if !encoded.isEmpty then .error "SQS plugin: failed to decode message body".toList else .ok []
  else .ok (sdk.base64Decode encoded)

theorem decodePayload_marked (sdk : Sdk) (encoded : Text) :
    decodePayload sdk (payloadPrefix ++ encoded) = decodeEncoded sdk encoded := by
  have hprefix : ¬ ((payloadPrefix ++ encoded).length < payloadPrefix.length ∨
      (payloadPrefix ++ encoded).take payloadPrefix.length ≠ payloadPrefix) := by
    rw [List.take_left, List.length_append]
    simp
  rw [decodePayload, if_neg hprefix, List.drop_left]
  rfl

theorem decodePayload_of_unmarked (sdk : Sdk) {body : Text} (h : ¬ payloadPrefix <+: body) :
    decodePayload sdk body = .error "SQS plugin: message body has an unsupported encoding".toList := by
  have hprefix : body.length < payloadPrefix.length ∨ body.take payloadPrefix.length ≠ payloadPrefix := by
    refine Or.inr fun htake => h ?_
    rw [← htake]
    exact List.take_prefix _ body
  rw [decodePayload, if_pos hprefix]

/-- `DecodePayload` reads the decoder at texts that satisfy `P` only: what it returns does not depend on the others. -/
def ReadsOnly (P : Text → Prop) (body : Text) : Prop :=
  ∀ sdk sdk' : Sdk, (∀ text, P text → sdk.base64Decode text = sdk'.base64Decode text) →
    decodePayload sdk body = decodePayload sdk' body

theorem decodeEncoded_congr {sdk sdk' : Sdk} {encoded : Text}
    (h : isValidBase64 encoded = true → sdk.base64Decode encoded = sdk'.base64Decode encoded) :
    decodeEncoded sdk encoded = decodeEncoded sdk' encoded := by
  unfold decodeEncoded
  cases hvalid : isValidBase64 encoded with
  | false => rfl
  | true  => rw [h hvalid]

theorem decodeEncoded_byte {sdk : Sdk} {encoded : Text} {b : Byte} (hvalid : isValidBase64 encoded = true)
    (h : sdk.base64Decode encoded = [b]) : decodeEncoded sdk encoded = .ok [b] := by
  rw [decodeEncoded, hvalid, h]
  rfl

theorem readsOnly_iff (body : Text) :
    ReadsOnly IsBase64 body ↔ ¬ ∃ encoded, body = payloadPrefix ++ encoded ∧ OverPadded encoded := by
  constructor
  · rintro h ⟨encoded, rfl, hover⟩
    have hvalid := isValidBase64_cases.2 (Or.inr hover)
    -- two decoders that differ at this text alone
    have heq := h ⟨fun _ => [], fun _ => [0]⟩ ⟨fun _ => [], fun text => if text = encoded then [1] else [0]⟩
      (fun text htext => (if_neg fun he : text = encoded => hover.not_isBase64 (he ▸ htext)).symm)
    rw [decodePayload_marked, decodePayload_marked, decodeEncoded_byte hvalid rfl,
      decodeEncoded_byte hvalid (if_pos rfl)] at heq
    exact absurd heq (by decide)
  · intro h sdk sdk' hagree
    by_cases hprefix : payloadPrefix <+: body
    · obtain ⟨encoded, rfl⟩ := hprefix
      rw [decodePayload_marked, decodePayload_marked]
      refine decodeEncoded_congr fun hvalid => hagree encoded ?_
      exact (isValidBase64_cases.1 hvalid).resolve_right fun hover => h ⟨encoded, rfl, hover⟩
    · rw [decodePayload_of_unmarked sdk hprefix, decodePayload_of_unmarked sdk' hprefix]

/-- **The guard is exact**, and keeps the decoder to Base64, but for texts that are padded too much. -/
theorem base64_guard_iff (text body : Text) :
    ((isValidBase64 text = true ↔ IsBase64 text) ↔ ¬ OverPadded text) ∧
    (ReadsOnly IsBase64 body ↔ ¬ ∃ encoded, body = payloadPrefix ++ encoded ∧ OverPadded encoded) :=
  ⟨isValidBase64_exact_iff text, readsOnly_iff body⟩

theorem overPadded_pads : OverPadded "====".toList :=
  ⟨4, by decide, rfl, [], rfl, fun _ hc => absurd hc List.not_mem_nil⟩

/-- Nothing but padding is taken for Base64, and handed to the decoder. -/
theorem not_base64_guard_pads :
    ¬ (isValidBase64 "====".toList = true ↔ IsBase64 "====".toList) ∧
      ¬ ReadsOnly IsBase64 "graftcode-base64:====".toList := by
  constructor
  · exact fun h => (isValidBase64_exact_iff _).1 h overPadded_pads
  · exact fun h => (readsOnly_iff _).1 h ⟨"====".toList, rfl, overPadded_pads⟩

/-! ## The round trip -/

/-- The codec of the SDK is the padded one of RFC 4648, in the standard alphabet. -/
structure Sdk.Standard (sdk : Sdk) : Prop where
  encodes : ∀ bytes, sdk.base64Encode bytes = Rfc4648.encode standardTable bytes
  decodes : ∀ bytes, sdk.base64Decode (Rfc4648.encode standardTable bytes) = bytes

/-- `ceil(n / 3)` groups of four characters, and the prefix. -/
def encodedLength (n : Nat) : Nat := 17 + 4 * ((n + 2) / 3)

theorem filled_encode (bytes : Bytes) :
    Filled (Rfc4648.encode standardTable bytes) (padding (sextets bytes).length) where
  groups := by
    rw [Rfc4648.length_encode]
    omega
  splits := ⟨_, rfl, Rfc4648.exists_writes_iff.1 ⟨_, Rfc4648.writes_sextets rfl bytes⟩⟩

section RoundTrip

variable {sdk : Sdk}

theorem encodePayload_eq (h : sdk.Standard) (data : Bytes) :
    encodePayload sdk (some data) data.length =
      if maxEncodedBodyBytes < encodedLength data.length then
        .error "SQS plugin: encoded payload exceeds the 1 MiB SQS limit".toList
      else .ok (payloadPrefix ++ Rfc4648.encode standardTable data) := by
  have hnull : ¬ (0 < data.length ∧ some data = none) := fun hc => nomatch hc.2
  have hlength : (payloadPrefix ++ Rfc4648.encode standardTable data).length = encodedLength data.length := by
    rw [List.length_append, Rfc4648.length_encode]
    rfl
  rw [encodePayload, if_neg hnull]
  simp only [Option.getD_some, List.take_length, h.encodes, hlength]

theorem decodeEncoded_encode (h : sdk.Standard) (data : Bytes) :
    decodeEncoded sdk (Rfc4648.encode standardTable data) = .ok data := by
  have hvalid : isValidBase64 (Rfc4648.encode standardTable data) = true :=
    isValidBase64_iff.2 ⟨_, filled_encode data⟩
  rw [decodeEncoded, hvalid, h.decodes]
  cases data with
  | nil         => rfl
  | cons b data => rfl

/-- **The round trip of a payload, within the limit of a body**; a null pointer is the empty payload. -/
theorem payload_round_trip (h : sdk.Standard) :
    (∀ data : Bytes, (∃ e, encodePayload sdk (some data) data.length = .error e) ↔
      maxEncodedBodyBytes < encodedLength data.length) ∧
    (∀ data : Bytes, encodedLength data.length ≤ maxEncodedBodyBytes →
      ∃ body, encodePayload sdk (some data) data.length = .ok body ∧ decodePayload sdk body = .ok data) ∧
    (∃ body, encodePayload sdk none 0 = .ok body ∧ decodePayload sdk body = .ok []) ∧
    ∀ body, ¬ payloadPrefix <+: body → ∃ e, decodePayload sdk body = .error e := by
  refine ⟨fun data => ?_, fun data hfits => ?_, ?_, fun body hbody => ⟨_, decodePayload_of_unmarked sdk hbody⟩⟩
  · rw [encodePayload_eq h]
    by_cases hlimit : maxEncodedBodyBytes < encodedLength data.length
    · rw [if_pos hlimit]
      exact iff_of_true ⟨_, rfl⟩ hlimit
    · rw [if_neg hlimit]
      exact iff_of_false (fun ⟨e, he⟩ => nomatch he) hlimit
  · refine ⟨payloadPrefix ++ Rfc4648.encode standardTable data, ?_, ?_⟩
    · rw [encodePayload_eq h, if_neg (by omega)]
    · rw [decodePayload_marked, decodeEncoded_encode h]
  · have hempty := encodePayload_eq h []
    rw [if_neg (by decide)] at hempty
    refine ⟨_, hempty, ?_⟩
    rw [decodePayload_marked, decodeEncoded_encode h]

def standardSdk : Sdk := ⟨Rfc4648.encode standardTable, Rfc4648.decode standardTable⟩

theorem payload_round_trip_standard :
    ∃ body, encodePayload standardSdk (some [0, 255, 16, 128]) 4 = .ok body ∧
      decodePayload standardSdk body = .ok [0, 255, 16, 128] := by
  have hstandard : standardSdk.Standard :=
    ⟨fun _ => rfl, fun bytes => Rfc4648.decode_encode rfl (by decide +kernel) pad_not_mem bytes⟩
  exact (payload_round_trip hstandard).2.1 [0, 255, 16, 128] (by decide)

end RoundTrip

end Sqs
end Graftcode
