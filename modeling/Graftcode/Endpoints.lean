import Graftcode.PubSubConfig
import Graftcode.SqsUtil
import Graftcode.Trimming
/-!
# Endpoints — the host a plugin is given in place of the cloud's

`ParseEndpointOverride` of the SQS plugin and `NormalizeEmulatorHost` of the Pub/Sub plugin: white space is trimmed, a
scheme is taken off the front and slashes off the end.  `Spelled` says how a text is put together from its host;
trimming comes first and is not repeated, so white space behind the scheme or before the slashes stays.
-/
namespace Graftcode

open Trimming (trim)

/-- `std::isspace`. -/
def isSpace (c : Char) : Bool :=
  c == ' ' || c == '\t' || c == '\n' || c == '\x0b' || c == '\x0c' || c == '\r'

def isBlankOrTab (c : Char) : Bool := c == ' ' || c == '\t'

def http : Text := "http://".toList

def https : Text := "https://".toList

/-! ## The code -/

namespace Sqs

structure ParsedEndpoint where
  overridden : Bool := false
  useHttps : Bool := true
  authority : Text := []
  deriving DecidableEq

def parseEndpointOverride (endpointOverride : Text) : Except Text ParsedEndpoint :=
  let value := trim isBlankOrTab endpointOverride
  if value.isEmpty then .ok {}
  else
    let (useHttps, value) :=
      if http.isPrefixOf value then (false, value.drop 7)
      else if https.isPrefixOf value then (true, value.drop 8)
      else (true, value)
    let value := value.rdropWhile (· == '/')
    if value.isEmpty then .error "SQS plugin: 'endpointOverride' is missing a host".toList
    else .ok { overridden := true, useHttps := useHttps, authority := value }

end Sqs

namespace PubSub

def normalizeEmulatorHost (config : PubSubConfig) : Except Text PubSubConfig :=
  let value := trim isSpace config.emulatorHost
  if value.isEmpty then .ok { config with emulatorHost := [] }
  else
    let (emulatorUseHttps, value) :=
      if https.isPrefixOf value then (true, value.drop 8)
      else if http.isPrefixOf value then (false, value.drop 7)
      else (false, value)
    let value := value.rdropWhile (· == '/')
    if value.isEmpty || value.contains '/' || value.contains ' ' then
      .error "Pub/Sub plugin: 'emulatorHost' must be host or host:port".toList
    else .ok { config with emulatorUseHttps := emulatorUseHttps, emulatorHost := value }

end PubSub

/-! ## How a text is spelled -/

def schemeText : Option Bool → Text
  | none       => []
  | some true  => https
  | some false => http

/-- Neither scheme is at the front of the text. -/
def Schemeless (text : Text) : Prop := ∀ b, ¬ schemeText (some b) <+: text

/-- `text` is a scheme or none, the host and slashes, in white space, each as much as there is. -/
structure Spelled (white : Char → Bool) (text : Text) (scheme : Option Bool) (host : Text) : Prop where
  host_ne : host ≠ []
  no_slash : host.getLast? ≠ some '/'
  parts : ∃ slashes before after, text = before ++ (schemeText scheme ++ (host ++ slashes)) ++ after ∧
    (∀ c ∈ slashes, c = '/') ∧ (∀ c ∈ before, white c = true) ∧ (∀ c ∈ after, white c = true) ∧
    (scheme = none → Schemeless (host ++ slashes)) ∧
    (∀ c, (schemeText scheme ++ (host ++ slashes)).head? = some c → white c = false) ∧
    ∀ c, (schemeText scheme ++ (host ++ slashes)).getLast? = some c → white c = false

/-- The scheme at the front of a text, and the rest. -/
def splitScheme (value : Text) : Option Bool × Text :=
  if https.isPrefixOf value then (some true, value.drop 8)
  else if http.isPrefixOf value then (some false, value.drop 7)
  else (none, value)

theorem http_append_not_https (rest : Text) : ¬ https <+: http ++ rest := by
  have hp : http = ['h', 't', 't', 'p', ':', '/', '/'] := by decide
  have hs : https = ['h', 't', 't', 'p', 's', ':', '/', '/'] := by decide
  rw [hp, hs]
  simp

theorem splitScheme_eq_iff {value rest : Text} {scheme : Option Bool} :
    splitScheme value = (scheme, rest) ↔
      value = schemeText scheme ++ rest ∧ (scheme = none → Schemeless rest) := by
  have hs : https.length = 8 := rfl
  have hp : http.length = 7 := rfl
  unfold splitScheme
  constructor
  · intro h
    by_cases h8 : https.isPrefixOf value = true
    · rw [if_pos h8] at h
      obtain ⟨rest', rfl⟩ := List.isPrefixOf_iff_prefix.1 h8
      cases h
      refine ⟨?_, nofun⟩
      rw [← hs, List.drop_left]
      rfl
    · rw [if_neg h8] at h
      by_cases h7 : http.isPrefixOf value = true
      · rw [if_pos h7] at h
        obtain ⟨rest', rfl⟩ := List.isPrefixOf_iff_prefix.1 h7
        cases h
        refine ⟨?_, nofun⟩
        rw [← hp, List.drop_left]
        rfl
      · rw [if_neg h7] at h
        cases h
        refine ⟨rfl, fun _ b hb => ?_⟩
        cases b with
        | true  => exact h8 (List.isPrefixOf_iff_prefix.2 hb)
        | false => exact h7 (List.isPrefixOf_iff_prefix.2 hb)
  · rintro ⟨rfl, hnone⟩
    match scheme with
    | some true =>
      have h8 : https.isPrefixOf (https ++ rest) = true := List.isPrefixOf_iff_prefix.2 ⟨rest, rfl⟩
      rw [schemeText, if_pos h8, ← hs, List.drop_left]
    | some false =>
      have h8 : ¬ https.isPrefixOf (http ++ rest) = true := by
        rw [List.isPrefixOf_iff_prefix]
        exact http_append_not_https rest
      have h7 : http.isPrefixOf (http ++ rest) = true := List.isPrefixOf_iff_prefix.2 ⟨rest, rfl⟩
      rw [schemeText, if_neg h8, if_pos h7, ← hp, List.drop_left]
    | none =>
      have h8 : ¬ https.isPrefixOf rest = true := by
        rw [List.isPrefixOf_iff_prefix]
        exact hnone rfl true
      have h7 : ¬ http.isPrefixOf rest = true := by
        rw [List.isPrefixOf_iff_prefix]
        exact hnone rfl false
      rw [schemeText, List.nil_append, if_neg h8, if_neg h7]

/-- **What the passes leave is the host of the spelling.** -/
theorem spelled_iff {white : Char → Bool} {text host : Text} {scheme : Option Bool} :
    Spelled white text scheme host ↔
      host ≠ [] ∧ (splitScheme (trim white text)).1 = scheme ∧
        (splitScheme (trim white text)).2.rdropWhile (· == '/') = host := by
  constructor
  · rintro ⟨hne, hlast, slashes, before, after, htext, hslashes, hbefore, hafter, hscheme, hhead, hend⟩
    have htrim : trim white text = schemeText scheme ++ (host ++ slashes) :=
      Trimming.trim_eq_iff.2 ⟨⟨before, after, htext, hbefore, hafter⟩, hhead, hend⟩
    have hsplit := splitScheme_eq_iff.2 ⟨htrim, hscheme⟩
    rw [hsplit]
    refine ⟨hne, rfl, Trimming.rdropWhile_eq_iff.2 ⟨⟨slashes, rfl, fun c hc => ?_⟩, fun c hc => ?_⟩⟩
    · rw [hslashes c hc]
      rfl
    · exact beq_false_of_ne fun h => hlast (h ▸ hc)
  · rintro ⟨hne, hscheme, hhost⟩
    obtain ⟨hvalue, hnone⟩ := splitScheme_eq_iff.1 (Prod.ext hscheme rfl : splitScheme (trim white text) =
      (scheme, (splitScheme (trim white text)).2))
    obtain ⟨⟨slashes, hrest, hslashes⟩, hlast⟩ := Trimming.rdropWhile_eq_iff.1 hhost
    rw [hrest] at hvalue hnone
    obtain ⟨⟨before, after, htext, hbefore, hafter⟩, hhead, hend⟩ := Trimming.trim_eq_iff.1 hvalue
    refine ⟨hne, fun h => ?_, slashes, before, after, htext, fun c hc => ?_, hbefore, hafter, hnone, hhead, hend⟩
    · exact absurd (hlast '/' h) (by decide)
    · simpa using hslashes c hc

theorem not_https_of_http {value : Text} (h : http.isPrefixOf value = true) : ¬ https.isPrefixOf value = true := by
  obtain ⟨rest, rfl⟩ := List.isPrefixOf_iff_prefix.1 h
  rw [List.isPrefixOf_iff_prefix]
  exact http_append_not_https rest

theorem spelled_scheme {white : Char → Bool} {host : Text} (hne : host ≠ []) (hslash : host.getLast? ≠ some '/')
    (hlast : ∀ c, host.getLast? = some c → white c = false) (hh : white 'h' = false) (b : Bool) :
    Spelled white (schemeText (some b) ++ host) (some b) host := by
  refine ⟨hne, hslash, [], [], [], ?_, by simp, by simp, by simp, nofun, fun c hc => ?_, fun c hc => ?_⟩
  · simp only [List.append_nil, List.nil_append]
  · have hfirst : (schemeText (some b) ++ (host ++ [])).head? = some 'h' := by
      cases b <;> rfl
    rw [hfirst] at hc
    cases hc
    exact hh
  · rw [List.append_nil, List.getLast?_append] at hc
    obtain ⟨d, hd⟩ := Option.ne_none_iff_exists'.1 fun h => hne (List.getLast?_eq_none_iff.1 h)
    rw [hd, Option.some_or] at hc
    cases hc
    exact hlast c hd

/-- A text that is all white space has no host. -/
theorem trim_ne_nil {white : Char → Bool} {text host : Text} (hne : host ≠ [])
    (h : (splitScheme (trim white text)).2.rdropWhile (· == '/') = host) : trim white text ≠ [] := by
  intro hnil
  rw [hnil] at h
  exact hne h.symm

/-- Nothing but white space. -/
def Blank (text : Text) : Prop := ∀ c ∈ text, isSpace c = true

theorem ne_nil_of_not_blank {text : Text} (h : ¬ Blank text) : text ≠ [] := by
  rintro rfl
  exact h fun c hc => absurd hc List.not_mem_nil

/-- White space at one of the ends. -/
def HasWhiteEnd (text : Text) : Prop := ∃ c, (text.head? = some c ∨ text.getLast? = some c) ∧ isSpace c = true

/-! ## SQS -/

namespace Sqs

/-- The code, by the scheme and the rest of what it reads. -/
theorem parseEndpointOverride_eq (endpointOverride : Text) : parseEndpointOverride endpointOverride =
    if (trim isBlankOrTab endpointOverride).isEmpty then .ok {}
    else if ((splitScheme (trim isBlankOrTab endpointOverride)).2.rdropWhile (· == '/')).isEmpty then
      .error "SQS plugin: 'endpointOverride' is missing a host".toList
    else .ok ⟨true, (splitScheme (trim isBlankOrTab endpointOverride)).1.getD true,
      (splitScheme (trim isBlankOrTab endpointOverride)).2.rdropWhile (· == '/')⟩ := by
  have hpair : ∀ value : Text, (if http.isPrefixOf value then (false, value.drop 7)
      else if https.isPrefixOf value then (true, value.drop 8) else (true, value)) =
        ((splitScheme value).1.getD true, (splitScheme value).2) := by
    intro value
    unfold splitScheme
    by_cases h7 : http.isPrefixOf value = true
    · rw [if_pos h7, if_neg (not_https_of_http h7), if_pos h7]
      rfl
    · rw [if_neg h7]
      by_cases h8 : https.isPrefixOf value = true
      · rw [if_pos h8, if_pos h8]
        rfl
      · rw [if_neg h8, if_neg h8, if_neg h7]
        rfl
  unfold parseEndpointOverride
  simp only [hpair]

theorem parseEndpointOverride_ok {endpointOverride : Text} {parsed : ParsedEndpoint} (hover : parsed.overridden = true) :
    parseEndpointOverride endpointOverride = .ok parsed ↔
      ∃ scheme, Spelled isBlankOrTab endpointOverride scheme parsed.authority ∧ parsed.useHttps = scheme.getD true := by
  simp only [parseEndpointOverride_eq, spelled_iff]
  constructor
  · intro h
    split at h
    · cases h
      cases hover
    split at h
    · cases h
    · rename_i hne
      cases h
      exact ⟨_, ⟨by simpa using hne, rfl, rfl⟩, rfl⟩
  · rintro ⟨scheme, ⟨hne, hscheme, hhost⟩, huse⟩
    rw [if_neg (by simpa using trim_ne_nil hne hhost), if_neg (by rw [hhost]; simpa using hne), hscheme, hhost, ← huse,
      ← hover]

theorem overridden_of_authority {endpointOverride : Text} {parsed : ParsedEndpoint}
    (h : parseEndpointOverride endpointOverride = .ok parsed) (hne : parsed.authority ≠ []) : parsed.overridden = true := by
  rw [parseEndpointOverride_eq] at h
  split at h
  · cases h
    exact absurd rfl hne
  split at h
  · cases h
  · cases h
    rfl

/-- What an accepted endpoint is to be, unless it is blank: a host without white space or slashes at its ends, which is
its own normal form under its scheme. -/
def Canonical (endpointOverride : Text) : Prop :=
  ∀ parsed, parseEndpointOverride endpointOverride = .ok parsed → ¬ Blank parsed.authority →
    parsed.authority ≠ [] ∧ ¬ HasWhiteEnd parsed.authority ∧ parsed.authority.getLast? ≠ some '/' ∧
      parseEndpointOverride (schemeText (some parsed.useHttps) ++ parsed.authority) = .ok parsed

theorem canonical_iff (endpointOverride : Text) :
    Canonical endpointOverride ↔
      ∀ scheme host, Spelled isBlankOrTab endpointOverride scheme host → ¬ Blank host → ¬ HasWhiteEnd host := by
  constructor
  · intro h scheme host hspelled hblank
    exact (h ⟨true, scheme.getD true, host⟩ ((parseEndpointOverride_ok rfl).2 ⟨scheme, hspelled, rfl⟩) hblank).2.1
  · intro h parsed hparse hblank
    have hover := overridden_of_authority hparse (ne_nil_of_not_blank hblank)
    obtain ⟨scheme, hspelled, -⟩ := (parseEndpointOverride_ok hover).1 hparse
    have hends := h scheme parsed.authority hspelled hblank
    refine ⟨hspelled.host_ne, hends, hspelled.no_slash, (parseEndpointOverride_ok hover).2 ⟨some parsed.useHttps, ?_, rfl⟩⟩
    refine spelled_scheme hspelled.host_ne hspelled.no_slash (fun c hc => ?_) rfl parsed.useHttps
    have hspace : ¬ isSpace c = true := fun hw => hends ⟨c, Or.inr hc, hw⟩
    simp only [isSpace, isBlankOrTab, Bool.or_eq_true, not_or] at hspace ⊢
    simp [hspace]

end Sqs

/-! ## Pub/Sub -/

namespace PubSub

/-- The code, by the scheme and the rest of what it reads. -/
theorem normalizeEmulatorHost_eq (config : PubSubConfig) : normalizeEmulatorHost config =
    if (trim isSpace config.emulatorHost).isEmpty then .ok { config with emulatorHost := [] }
    else if (((splitScheme (trim isSpace config.emulatorHost)).2.rdropWhile (· == '/')).isEmpty ||
        ((splitScheme (trim isSpace config.emulatorHost)).2.rdropWhile (· == '/')).contains '/' ||
        ((splitScheme (trim isSpace config.emulatorHost)).2.rdropWhile (· == '/')).contains ' ') = true then
      .error "Pub/Sub plugin: 'emulatorHost' must be host or host:port".toList
    else .ok { config with
      emulatorUseHttps := (splitScheme (trim isSpace config.emulatorHost)).1.getD false
      emulatorHost := (splitScheme (trim isSpace config.emulatorHost)).2.rdropWhile (· == '/') } := by
  have hpair : ∀ value : Text, (if https.isPrefixOf value then (true, value.drop 8)
      else if http.isPrefixOf value then (false, value.drop 7) else (false, value)) =
        ((splitScheme value).1.getD false, (splitScheme value).2) := by
    intro value
    unfold splitScheme
    split
    · rfl
    split
    · rfl
    · rfl
  unfold normalizeEmulatorHost
  simp only [hpair]

/-- **The normalization**: a blank host is cleared, and any other is the host of its spelling. -/
theorem normalizeEmulatorHost_iff {config config' : PubSubConfig} :
    normalizeEmulatorHost config = .ok config' ↔
      (trim isSpace config.emulatorHost = [] ∧ config' = { config with emulatorHost := [] }) ∨
      ∃ scheme host, Spelled isSpace config.emulatorHost scheme host ∧ '/' ∉ host ∧ ' ' ∉ host ∧
        config' = { config with emulatorHost := host, emulatorUseHttps := scheme.getD false } := by
  rw [normalizeEmulatorHost_eq]
  constructor
  · intro h
    split at h
    · rename_i hblank
      cases h
      exact Or.inl ⟨by simpa using hblank, rfl⟩
    split at h
    · cases h
    · rename_i hhost
      simp only [Bool.or_eq_true, List.isEmpty_iff, List.contains_iff_mem, not_or] at hhost
      cases h
      exact Or.inr ⟨_, _, spelled_iff.2 ⟨hhost.1.1, rfl, rfl⟩, hhost.1.2, hhost.2, rfl⟩
  · rintro (⟨hblank, rfl⟩ | ⟨scheme, host, hspelled, hslash, hblank, rfl⟩)
    · rw [if_pos (by simpa using hblank)]
    · obtain ⟨hnil, hscheme, hhost⟩ := spelled_iff.1 hspelled
      rw [hscheme, hhost, if_neg (by simpa using trim_ne_nil hnil hhost), if_neg]
      simp only [Bool.or_eq_true, List.isEmpty_iff, List.contains_iff_mem, not_or]
      exact ⟨⟨hnil, hslash⟩, hblank⟩

theorem normalizeEmulatorHost_ok {config config' : PubSubConfig} (hne : config'.emulatorHost ≠ []) :
    normalizeEmulatorHost config = .ok config' ↔
      ∃ scheme host, Spelled isSpace config.emulatorHost scheme host ∧ '/' ∉ host ∧ ' ' ∉ host ∧
        config' = { config with emulatorHost := host, emulatorUseHttps := scheme.getD false } := by
  rw [normalizeEmulatorHost_iff]
  refine ⟨fun h => h.resolve_left ?_, Or.inr⟩
  rintro ⟨-, rfl⟩
  exact hne rfl

/-- Nothing but the host and its scheme is changed, and the host has no slashes or blanks. -/
theorem normalizeEmulatorHost_frame {config config' : PubSubConfig} (h : normalizeEmulatorHost config = .ok config') :
    config' = { config with emulatorHost := config'.emulatorHost, emulatorUseHttps := config'.emulatorUseHttps } ∧
      '/' ∉ config'.emulatorHost ∧ ' ' ∉ config'.emulatorHost := by
  rcases normalizeEmulatorHost_iff.1 h with ⟨-, rfl⟩ | ⟨scheme, host, -, hslash, hblank, rfl⟩
  · exact ⟨rfl, List.not_mem_nil, List.not_mem_nil⟩
  · exact ⟨rfl, hslash, hblank⟩

/-- What an accepted emulator host is to be, unless it is blank: a host without slashes and white space, which is its own
normal form under its scheme. -/
def Canonical (config : PubSubConfig) : Prop :=
  ∀ config', normalizeEmulatorHost config = .ok config' → ¬ Blank config'.emulatorHost →
    config'.emulatorHost ≠ [] ∧ ¬ HasWhiteEnd config'.emulatorHost ∧ config'.emulatorHost.getLast? ≠ some '/' ∧
      '/' ∉ config'.emulatorHost ∧ (∀ c ∈ config'.emulatorHost, isSpace c = false) ∧
      normalizeEmulatorHost { config' with
        emulatorHost := schemeText (some config'.emulatorUseHttps) ++ config'.emulatorHost } = .ok config'

theorem canonical_iff (config : PubSubConfig) :
    Canonical config ↔ ∀ scheme host, Spelled isSpace config.emulatorHost scheme host → '/' ∉ host → ' ' ∉ host →
      ¬ Blank host → ∀ c ∈ host, isSpace c = false := by
  constructor
  · intro h scheme host hspelled hslash hblank hwhite
    have hnormal : normalizeEmulatorHost config =
        .ok { config with emulatorHost := host, emulatorUseHttps := scheme.getD false } :=
      (normalizeEmulatorHost_ok hspelled.host_ne).2 ⟨scheme, host, hspelled, hslash, hblank, rfl⟩
    exact (h _ hnormal hwhite).2.2.2.2.1
  · intro h config' hnormal hnotBlank
    have hne := ne_nil_of_not_blank hnotBlank
    obtain ⟨scheme, host, hspelled, hslash, hblank, rfl⟩ := (normalizeEmulatorHost_ok hne).1 hnormal
    have hwhite := h scheme host hspelled hslash hblank hnotBlank
    have hagain := spelled_scheme hspelled.host_ne hspelled.no_slash
      (fun c hc => hwhite c (List.mem_of_getLast? hc)) rfl (scheme.getD false)
    refine ⟨hne, ?_, hspelled.no_slash, hslash, hwhite, ?_⟩
    · rintro ⟨c, hc | hc, hspace⟩
      · rw [hwhite c (List.mem_of_mem_head? hc)] at hspace
        cases hspace
      · rw [hwhite c (List.mem_of_getLast? hc)] at hspace
        cases hspace
    · exact (normalizeEmulatorHost_ok hne).2 ⟨_, host, hagain, hslash, hblank, rfl⟩

end PubSub

/-- **Normal forms of endpoints**: a host that is not blank is one, exactly when the text has no white space between its
scheme, host and slashes, or of a kind that is not trimmed, at the ends of the host (SQS) or in it (Pub/Sub). -/
theorem endpoints_canonical_iff (endpointOverride : Text) (config : PubSub.PubSubConfig) :
    (Sqs.Canonical endpointOverride ↔
      ∀ scheme host, Spelled isBlankOrTab endpointOverride scheme host → ¬ Blank host → ¬ HasWhiteEnd host) ∧
    (PubSub.Canonical config ↔
      ∀ scheme host, Spelled isSpace config.emulatorHost scheme host → '/' ∉ host → ' ' ∉ host → ¬ Blank host →
        ∀ c ∈ host, isSpace c = false) :=
  ⟨Sqs.canonical_iff endpointOverride, PubSub.canonical_iff config⟩

/-- White space before the slash, and a tab within the host. -/
theorem not_endpoints_canonical :
    ¬ Sqs.Canonical "http://sqs.local /".toList ∧
      ¬ ∀ config : PubSub.PubSubConfig, config.emulatorHost = "pub\tsub:8085".toList → PubSub.Canonical config := by
  constructor
  · intro h
    have hparse : Sqs.parseEndpointOverride "http://sqs.local /".toList = .ok ⟨true, false, "sqs.local ".toList⟩ := by
      decide +kernel
    have hblank : ¬ Blank "sqs.local ".toList := fun hb => absurd (hb 's' (by decide)) (by decide)
    exact (h _ hparse hblank).2.1 ⟨' ', Or.inr (by decide), rfl⟩
  · intro h
    have hcanonical := h { projectId := [], requestTopic := [], emulatorHost := "pub\tsub:8085".toList } rfl
    have hspelled : Spelled isSpace "pub\tsub:8085".toList none "pub\tsub:8085".toList :=
      spelled_iff.2 ⟨by decide, by decide +kernel, by decide +kernel⟩
    have hblank : ¬ Blank "pub\tsub:8085".toList := fun hb => absurd (hb 'p' (by decide)) (by decide)
    exact absurd ((PubSub.canonical_iff _).1 hcanonical none _ hspelled (by decide) (by decide) hblank '\t' (by decide))
      (by decide)

end Graftcode
