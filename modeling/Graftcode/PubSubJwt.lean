import Mathlib.Data.Bool.AllAny
import Graftcode.PubSubBase64
import Graftcode.PubSubToken
/-!
# PubSubJwt — the signed assertion of a service account

`Base64Url` and `BuildServiceAccountJwt` of `PubSubUtil.cpp`.  `dump` writes a JSON value, which fails on text that is not
UTF-8, and `signRs256` signs a text with a key.
-/
namespace Graftcode
namespace PubSub

open Rfc4648 (standardTable urlSafeTable sextets octets Writes)

/-! ## URL-safe Base64 -/

def urlSafe (character : Char) : Char :=
  if character = '+' then '-' else if character = '/' then '_' else character

def base64Url (raw : Bytes) : Text := stripPadding ((base64Encode raw).map urlSafe)

/-- `part` is `bytes` in URL-safe Base64 without padding, and is read as that. -/
structure UrlSafePart (part : Text) (bytes : Bytes) : Prop where
  writes : List.Forall₂ (Writes urlSafeTable) part (sextets bytes)
  alphabet : ∀ c ∈ part, c ∈ urlSafeTable
  decodes : base64Decode part = .ok bytes

theorem writes_urlSafe {c : Char} {v : Nat} (h : Writes standardTable c v) : Writes urlSafeTable (urlSafe c) v := by
  have htable : standardTable.map urlSafe = urlSafeTable := by decide +kernel
  unfold Writes at h ⊢
  rw [← htable, List.getElem?_map, h]
  rfl

/-- The padding goes, and every other character stands for what it stood for. -/
theorem base64Url_writes (raw : Bytes) : List.Forall₂ (Writes urlSafeTable) (base64Url raw) (sextets raw) := by
  have hbody : List.Forall₂ (Writes urlSafeTable)
      (((sextets raw).map fun v => kTable.getD v '\x00').map urlSafe) (sextets raw) := by
    rw [List.map_map, List.forall₂_map_left_iff, List.forall₂_same]
    exact fun v hv => writes_urlSafe (writes_kTable (Rfc4648.sextets_lt raw v hv))
  have hpad : ∀ c ∈ ((sextets raw).map fun v => kTable.getD v '\x00').map urlSafe, c ≠ '=' := by
    rintro c hc rfl
    exact absurd (Rfc4648.exists_writes_iff.1 ⟨_, hbody⟩ '=' hc) (by decide)
  have hurl : base64Url raw = ((sextets raw).map fun v => kTable.getD v '\x00').map urlSafe := by
    rw [base64Url, base64Encode_eq, List.map_append, List.map_replicate]
    exact stripPadding_append hpad _
  rw [hurl]
  exact hbody

theorem urlSafePart (raw : Bytes) : UrlSafePart (base64Url raw) raw := by
  have hwrites := base64Url_writes raw
  have halphabet := Rfc4648.exists_writes_iff.1 ⟨_, hwrites⟩
  refine ⟨hwrites, halphabet, base64Decode_iff.2 ⟨base64Url raw, 0, sextets raw, ?_, ?_, Rfc4648.octets_sextets raw⟩⟩
  · have hblank : ∀ c ∈ urlSafeTable, isBlank c = false := List.all_iff_forall_prop.1 (by decide +kernel)
    rw [List.replicate_zero, List.append_nil, dropBlanks]
    exact List.filter_eq_self.2 fun c hc => by rw [hblank c (halphabet c hc)]; rfl
  · exact hwrites.imp fun c v hcv => writesEither_iff.1 (Or.inr hcv)

theorem UrlSafePart.count_dot {part : Text} {bytes : Bytes} (h : UrlSafePart part bytes) : part.count '.' = 0 :=
  List.count_eq_zero.2 fun hc => absurd (h.alphabet '.' hc) (by decide)

/-! ## The assertion -/

def kPubSubScope : Text := "https://www.googleapis.com/auth/pubsub".toList

def jwtHeader : Text := "\x7b\"alg\":\"RS256\",\"typ\":\"JWT\"\x7d".toList

/-- The claims, their names in order. -/
def jwtClaims (clientEmail tokenUri : Text) (issuedAtEpochSeconds : Int) : Json :=
  .object [("aud".toList, .string (if tokenUri.isEmpty then Token.kDefaultTokenUri else tokenUri)),
    ("exp".toList, .number (issuedAtEpochSeconds + 3600)), ("iat".toList, .number issuedAtEpochSeconds),
    ("iss".toList, .string clientEmail), ("scope".toList, .string kPubSubScope)]

section Jwt

variable (dump : Json → Except Error Text) (signRs256 : (input pem : Text) → Except Error Bytes)

def buildServiceAccountJwt (clientEmail privateKeyPem tokenUri : Text) (issuedAtEpochSeconds : Int) :
    Except Error Text :=
  if clientEmail.isEmpty || privateKeyPem.isEmpty then
    .error (.exn (.std "Pub/Sub plugin: service account is missing client_email or private_key".toList))
  else do
    let header := base64Url (bytesOf jwtHeader)
    let payload := base64Url (bytesOf (← dump (jwtClaims clientEmail tokenUri issuedAtEpochSeconds)))
    let signingInput := header ++ ".".toList ++ payload
    let signature ← signRs256 signingInput privateKeyPem
    .ok (signingInput ++ ".".toList ++ base64Url signature)

variable {dump}

/-- **The structure of the assertion**: three parts, the last the signature of all before its dot. -/
theorem jwt_structure {clientEmail privateKeyPem tokenUri claimsText : Text} {issuedAtEpochSeconds : Int}
    (hemail : clientEmail ≠ []) (hkey : privateKeyPem ≠ [])
    (hdump : dump (jwtClaims clientEmail tokenUri issuedAtEpochSeconds) = .ok claimsText) :
    ∃ header payload, UrlSafePart header (bytesOf jwtHeader) ∧ UrlSafePart payload (bytesOf claimsText) ∧
      ∀ signRs256 : (input pem : Text) → Except Error Bytes,
        (∀ e, signRs256 (header ++ '.' :: payload) privateKeyPem = .error e →
          buildServiceAccountJwt dump signRs256 clientEmail privateKeyPem tokenUri issuedAtEpochSeconds = .error e) ∧
        ∀ signature, signRs256 (header ++ '.' :: payload) privateKeyPem = .ok signature →
          ∃ jwt last, buildServiceAccountJwt dump signRs256 clientEmail privateKeyPem tokenUri issuedAtEpochSeconds =
              .ok jwt ∧
            jwt = header ++ '.' :: payload ++ '.' :: last ∧ UrlSafePart last signature ∧ jwt.count '.' = 2 := by
  have hgiven : ¬ (clientEmail.isEmpty || privateKeyPem.isEmpty) = true := by simp [hemail, hkey]
  have hheader := urlSafePart (bytesOf jwtHeader)
  have hpayload := urlSafePart (bytesOf claimsText)
  have hinput : base64Url (bytesOf jwtHeader) ++ ".".toList ++ base64Url (bytesOf claimsText) =
      base64Url (bytesOf jwtHeader) ++ '.' :: base64Url (bytesOf claimsText) := List.append_assoc ..
  have hbuild : ∀ signRs256 : (input pem : Text) → Except Error Bytes,
      buildServiceAccountJwt dump signRs256 clientEmail privateKeyPem tokenUri issuedAtEpochSeconds =
        (signRs256 (base64Url (bytesOf jwtHeader) ++ '.' :: base64Url (bytesOf claimsText)) privateKeyPem).bind
          fun signature => .ok (base64Url (bytesOf jwtHeader) ++ '.' :: base64Url (bytesOf claimsText) ++ ".".toList ++
            base64Url signature) := by
    intro signRs256
    rw [buildServiceAccountJwt, if_neg hgiven, hdump, ← hinput]
    rfl
  refine ⟨_, _, hheader, hpayload, fun signRs256 => ⟨fun e he => ?_, fun signature hsign => ?_⟩⟩
  · rw [hbuild, he]
    rfl
  · have hlast := urlSafePart signature
    refine ⟨_, base64Url signature, by rw [hbuild, hsign]; rfl, List.append_assoc .., hlast, ?_⟩
    have hdot : ".".toList.count '.' = 1 := rfl
    rw [List.count_append, List.count_append, List.count_append, List.count_cons_self, hheader.count_dot,
      hpayload.count_dot, hlast.count_dot, hdot]

end Jwt

/-- A number or a text that needs no escapes. -/
def dumpScalar : Json → Text
  | .number n => (toString n).toList
  | .string s => '"' :: s ++ ['"']
  | _         => "null".toList

/-- An object of such members. -/
def dumpFlat : Json → Except Error Text
  | .object members =>
    .ok ('{' :: ",".toList.intercalate (members.map fun m => dumpScalar (.string m.1) ++ ':' :: dumpScalar m.2) ++ ['}'])
  | json            => .ok (dumpScalar json)

/-- Its signature is written with `-` and `_`. -/
def signWithK (_input pem : Text) : Except Error Bytes :=
  if pem = ['k'] then .ok [251, 255] else .error Token.missingCredentials

theorem jwt_structure_signed :
    ∃ jwt, buildServiceAccountJwt dumpFlat signWithK "a@b".toList ['k'] [] 7 = .ok jwt ∧ jwt.count '.' = 2 := by
  have hdump : dumpFlat (jwtClaims "a@b".toList [] 7) = .ok _ := rfl
  obtain ⟨header, payload, -, -, hsigned⟩ := jwt_structure (by decide) (List.cons_ne_nil 'k' []) hdump
  obtain ⟨jwt, -, hjwt, -, -, hcount⟩ := (hsigned signWithK).2 [251, 255] rfl
  exact ⟨jwt, hjwt, hcount⟩

end PubSub
end Graftcode
