import Graftcode.PubSubHttp
/-!
# PubSubToken — the cached access token

`BearerToken`, `RefreshFromServiceAccount` and `TryMetadataToken` of `PubSubUtil.cpp`, with the two members they cache a
token in.  A member keeps what was stored before an exception.  A `TokenCall` is what the outside answers to one call; two
ghost fields of the cache remember the exchanges from which its token and its expiry came, and nothing reads them.
-/
namespace Graftcode
namespace PubSub
namespace Token

/-- One successful token request: which call made it, the clock before it was sent, and the `expires_in` of its answer. -/
structure Exchange where
  call : Nat
  sentAt : Int
  expiresIn : Option Int
  deriving DecidableEq

structure TokenCache where
  cachedToken_ : Text := []
  tokenExpiryEpoch_ : Int := 0
  tokenOf : Option Exchange := none
  expiryOf : Option Exchange := none

structure TokenRequest where
  method : Text
  url : Text
  form : Text
  headers : List Text

/-- What the outside answers to one call.  `later` is the second reading of the clock, if there is one: a service
account's before its request, the metadata server's after it. -/
structure TokenCall where
  now : Int
  later : Int
  readFile : Except Error Text
  buildServiceAccountJwt : (clientEmail privateKeyPem tokenUri : Text) → (issuedAt : Int) → Except Error Text
  request : TokenRequest → Except Error HttpResult

/-! ## JSON -/

def typeName : Json → String
  | .null     => "null"
  | .bool _   => "boolean"
  | .number _ => "number"
  | .string _ => "string"
  | .array _  => "array"
  | .object _ => "object"

def typeError (expected : String) (json : Json) : Error :=
  .exn (.std ("[json.exception.type_error.302] type must be ".toList ++ expected.toList ++ ", but is ".toList ++
    (typeName json).toList))

/-- `static_cast<int>` of an integer. -/
def toInt32 (n : Int) : Int := Int.bmod n (2 ^ 32)

/-- `json.value(key, default)` for an `int`. -/
def valueInt (json : Json) (key : Text) (default : Int) : Except Error Int :=
  match json.find? key with
  | none             => .ok default
  | some (.number n) => .ok (toInt32 n)
  | some (.bool b)   => .ok (if b then 1 else 0)
  | some other       => .error (typeError "number" other)

/-- `json.value(key, default)` for a `std::string`. -/
def valueString (json : Json) (key : Text) (default : Text) : Except Error Text :=
  match json.find? key with
  | none             => .ok default
  | some (.string s) => .ok s
  | some other       => .error (typeError "string" other)

/-- The lifetime as the answer has it, before it becomes an `int`. -/
def reportedExpiresIn (json : Json) : Option Int :=
  match json.find? "expires_in".toList with
  | none             => some 3600
  | some (.number n) => some n
  | some (.bool b)   => some (if b then 1 else 0)
  | some _           => none

/-! ## The functions -/

def kDefaultTokenUri : Text := "https://oauth2.googleapis.com/token".toList

def missingCredentials : Error :=
  .exn (.std "Pub/Sub plugin: credentials file must contain client_email and private_key".toList)

/-- A minute off the lifetime, if it is long enough. -/
def margin (expiresIn : Int) : Int := if 90 < expiresIn then expiresIn - 60 else expiresIn

/-- The stores at the end of both exchanges; what is read between them may throw. -/
def store (exchange : Exchange) (parsed : Json) (token : Text) (base : Int) (cache : TokenCache) :
    Except Error Unit × TokenCache :=
  let cache := { cache with cachedToken_ := token, tokenOf := some exchange }
  match valueInt parsed "expires_in".toList 3600 with
  | .error e      => (.error e, cache)
  | .ok expiresIn =>
    (.ok (), { cache with tokenExpiryEpoch_ := base + margin expiresIn, expiryOf := some exchange })

section

variable (parse : Text → Except Text Json)

def parseOrThrow (text : Text) : Except Error Json := (parse text).mapError fun what => Error.exn (.std what)

/-- `RefreshFromServiceAccount` up to its first store. -/
def serviceAccountAnswer (a : TokenCall) : Except Error (Json × Text) := do
  let json ← parseOrThrow parse (← a.readFile)
  match json.findString? "client_email".toList, json.findString? "private_key".toList with
  | some email, some key => do
    let tokenUri ← valueString json "token_uri".toList kDefaultTokenUri
    let issuedAt := a.later
    let jwt ← a.buildServiceAccountJwt email key tokenUri issuedAt
    let form := "grant_type=urn%3Aietf%3Aparams%3Aoauth%3Agrant-type%3Ajwt-bearer&assertion=".toList ++ jwt
    let result ← a.request ⟨"POST".toList, tokenUri, form, ["Content-Type: application/x-www-form-urlencoded".toList]⟩
    throwIfHttpFailed "token exchange".toList result
    let parsed ← parseOrThrow parse result.body
    match parsed.findString? "access_token".toList with
    | none       => .error noAccessToken
    | some token => .ok (parsed, token)
  | _, _ => .error missingCredentials

def refreshFromServiceAccount (call : Nat) (a : TokenCall) (cache : TokenCache) : Except Error Unit × TokenCache :=
  match serviceAccountAnswer parse a with
  | .error e            => (.error e, cache)
  | .ok (parsed, token) => store ⟨call, a.later, reportedExpiresIn parsed⟩ parsed token a.later cache

/-- `TryMetadataToken` up to its first store; `none` is its `return false`. -/
def metadataAnswer (a : TokenCall) : Except Error (Option (Json × Text)) := do
  let result ← a.request ⟨"GET".toList, kMetadataTokenUrl, [], ["Metadata-Flavor: Google".toList]⟩
  if result.status ≠ 200 then .ok none
  else
    match (parse result.body).toOption with
    | none        => .ok none
    | some parsed => .ok ((parsed.findString? "access_token".toList).map fun token => (parsed, token))

def tryMetadataToken (call : Nat) (a : TokenCall) (cache : TokenCache) : Except Error Bool × TokenCache :=
  match metadataAnswer parse a with
  | .error e                   => (.error e, cache)
  | .ok none                   => (.ok false, cache)
  | .ok (some (parsed, token)) =>
    let (result, cache) := store ⟨call, a.now, reportedExpiresIn parsed⟩ parsed token a.later cache
    (result.map fun _ => true, cache)

def bearerToken (config : PubSubConfig) (call : Nat) (a : TokenCall) (cache : TokenCache) :
    Except Error Text × TokenCache :=
  if !config.emulatorHost.isEmpty then (.ok [], cache)
  else if !config.accessToken.isEmpty then (.ok config.accessToken, cache)
  else if !cache.cachedToken_.isEmpty && decide (a.now < cache.tokenExpiryEpoch_) then (.ok cache.cachedToken_, cache)
  else if !config.credentialsFile.isEmpty then
    match refreshFromServiceAccount parse call a cache with
    | (.error e, cache) => (.error e, cache)
    | (.ok _, cache)    => (.ok cache.cachedToken_, cache)
  else
    match tryMetadataToken parse call a cache with
    | (.error e, cache)   => (.error e, cache)
    | (.ok true, cache)   => (.ok cache.cachedToken_, cache)
    | (.ok false, cache)  => (.error noCredentials, cache)

/-- The cache after a sequence of calls, the first of which is number `call`. -/
def cacheAfter (config : PubSubConfig) : Nat → TokenCache → List TokenCall → TokenCache
  | _, cache, []           => cache
  | call, cache, a :: rest => cacheAfter config (call + 1) (bearerToken parse config call a cache).2 rest

end

/-! ## What a call does -/

/-- The call returns what the cache holds. -/
def Hits (config : PubSubConfig) (cache : TokenCache) (a : TokenCall) : Prop :=
  config.emulatorHost = [] ∧ config.accessToken = [] ∧ cache.cachedToken_ ≠ [] ∧ a.now < cache.tokenExpiryEpoch_

/-- The call asks for a new token. -/
def Refreshes (config : PubSubConfig) (cache : TokenCache) (a : TokenCall) : Prop :=
  config.emulatorHost = [] ∧ config.accessToken = [] ∧ (cache.cachedToken_ = [] ∨ cache.tokenExpiryEpoch_ ≤ a.now)

section

variable (parse : Text → Except Text Json)

/-- The answer with the new token, if the exchange gets as far as the first store. -/
def tokenAnswer (config : PubSubConfig) (a : TokenCall) : Option (Json × Text) :=
  if config.credentialsFile = [] then (metadataAnswer parse a).toOption.join else (serviceAccountAnswer parse a).toOption

def sentAt (config : PubSubConfig) (a : TokenCall) : Int := if config.credentialsFile = [] then a.now else a.later

def exchangeOf (config : PubSubConfig) (call : Nat) (a : TokenCall) (parsed : Json) : Exchange :=
  ⟨call, sentAt config a, reportedExpiresIn parsed⟩

end

variable {parse : Text → Except Text Json} {config : PubSubConfig}

theorem bearerToken_of_hits {cache : TokenCache} {a : TokenCall} (call : Nat) (h : Hits config cache a) :
    bearerToken parse config call a cache = (.ok cache.cachedToken_, cache) := by
  obtain ⟨hhost, haccess, htoken, hnow⟩ := h
  have htoken' : cache.cachedToken_.isEmpty = false := by rwa [List.isEmpty_eq_false_iff]
  simp [bearerToken, hhost, haccess, htoken', hnow]

/-- A call that asks for no token leaves the cache. -/
theorem bearerToken_of_not_refreshes {cache : TokenCache} {a : TokenCall} (call : Nat)
    (h : ¬ Refreshes config cache a) : (bearerToken parse config call a cache).2 = cache := by
  by_cases hhost : config.emulatorHost = []
  · by_cases haccess : config.accessToken = []
    · have hhits : Hits config cache a := by
        refine ⟨hhost, haccess, fun htoken => h ⟨hhost, haccess, Or.inl htoken⟩, ?_⟩
        by_contra hnow
        exact h ⟨hhost, haccess, Or.inr (by omega)⟩
      rw [bearerToken_of_hits call hhits]
    · simp [bearerToken, hhost, haccess]
  · simp [bearerToken, hhost]

/-- A refresh leaves the cache, or does the stores of its exchange. -/
theorem bearerToken_of_refreshes {cache : TokenCache} {a : TokenCall} (call : Nat) (h : Refreshes config cache a) :
    (bearerToken parse config call a cache).2 =
      match tokenAnswer parse config a with
      | none                 => cache
      | some (parsed, token) => (store (exchangeOf config call a parsed) parsed token a.later cache).2 := by
  obtain ⟨hhost, haccess, hmiss⟩ := h
  have hcond : (!cache.cachedToken_.isEmpty && decide (a.now < cache.tokenExpiryEpoch_)) = false := by
    rcases hmiss with hmiss | hmiss
    · simp [hmiss]
    · simp [Int.not_lt.2 hmiss]
  by_cases hfile : config.credentialsFile = []
  · cases hm : metadataAnswer parse a with
    | error e =>
      simp [bearerToken, hhost, haccess, hcond, hfile, tryMetadataToken, hm, tokenAnswer, Except.toOption]
    | ok answer =>
      cases answer with
      | none => simp [bearerToken, hhost, haccess, hcond, hfile, tryMetadataToken, hm, tokenAnswer, Except.toOption]
      | some found =>
        obtain ⟨parsed, token⟩ := found
        simp only [bearerToken, hhost, haccess, hcond, hfile, tryMetadataToken, hm, tokenAnswer, Except.toOption,
          exchangeOf, sentAt, if_true, Option.join_some, List.isEmpty_nil, Bool.not_true, Bool.false_eq_true, if_false]
        cases hs : store ⟨call, a.now, reportedExpiresIn parsed⟩ parsed token a.later cache with
        | mk result cache' => cases result <;> rfl
  · have hfile' : config.credentialsFile.isEmpty = false := by rwa [List.isEmpty_eq_false_iff]
    cases hm : serviceAccountAnswer parse a with
    | error e =>
      simp [bearerToken, hhost, haccess, hcond, hfile, hfile', refreshFromServiceAccount, hm, tokenAnswer,
        Except.toOption]
    | ok found =>
      obtain ⟨parsed, token⟩ := found
      simp only [bearerToken, hhost, haccess, hcond, hfile, hfile', refreshFromServiceAccount, hm, tokenAnswer,
        Except.toOption, exchangeOf, sentAt, if_true, List.isEmpty_nil, Bool.not_true, Bool.not_false, Bool.false_eq_true,
        if_false]
      cases hs : store ⟨call, a.later, reportedExpiresIn parsed⟩ parsed token a.later cache with
      | mk result cache' => cases result <;> rfl

theorem valueInt_of_reported {parsed : Json} {n : Int} (h : reportedExpiresIn parsed = some n) :
    valueInt parsed "expires_in".toList 3600 = .ok (toInt32 n) := by
  unfold reportedExpiresIn at h
  unfold valueInt
  cases hf : parsed.find? "expires_in".toList with
  | none =>
    simp only [hf, Option.some.injEq] at h
    subst h
    rfl
  | some value =>
    simp only [hf] at h
    cases value with
    | number m =>
      simp only [Option.some.injEq] at h
      subst h
      rfl
    | bool b =>
      simp only [Option.some.injEq] at h
      subst h
      cases b <;> rfl
    | _ => cases h

theorem valueInt_of_not_reported {parsed : Json} (h : reportedExpiresIn parsed = none) :
    ∃ e, valueInt parsed "expires_in".toList 3600 = .error e := by
  unfold reportedExpiresIn at h
  unfold valueInt
  cases hf : parsed.find? "expires_in".toList with
  | none =>
    simp only [hf] at h
    cases h
  | some value =>
    simp only [hf] at h
    cases value with
    | number m => cases h
    | bool b => cases h
    | _ => exact ⟨_, rfl⟩

theorem store_of_reported {exchange : Exchange} {parsed : Json} {n : Int} (h : reportedExpiresIn parsed = some n)
    (token : Text) (base : Int) (cache : TokenCache) : (store exchange parsed token base cache).2 =
      ⟨token, base + margin (toInt32 n), some exchange, some exchange⟩ := by
  unfold store
  rw [valueInt_of_reported h]

theorem store_of_not_reported {exchange : Exchange} {parsed : Json} (h : reportedExpiresIn parsed = none) (token : Text)
    (base : Int) (cache : TokenCache) : (store exchange parsed token base cache).2 =
      { cache with cachedToken_ := token, tokenOf := some exchange } := by
  obtain ⟨e, he⟩ := valueInt_of_not_reported h
  unfold store
  rw [he]

theorem margin_le (n : Int) : margin n ≤ n := by
  unfold margin
  split <;> omega

theorem toInt32_le {n : Int} (h0 : 0 ≤ n) (h : n < 2 ^ 32) : toInt32 n ≤ n := by
  unfold toInt32 Int.bmod
  have hmod : n % ((2 ^ 32 : Nat) : Int) = n := Int.emod_eq_of_lt h0 h
  simp only [hmod]
  split <;> omega

/-! ## Runs -/

/-- The clock does not go back: within a call, and from one call to the next. -/
def Ordered : Int → List TokenCall → Prop
  | _, []        => True
  | last, a :: rest => last ≤ a.now ∧ a.now ≤ a.later ∧ Ordered a.later rest

/-- The token request of the call, if it succeeds, reports a non-negative lifetime of 32 bits. -/
def ReportsLifetime (parse : Text → Except Text Json) (config : PubSubConfig) (a : TokenCall) : Prop :=
  ∀ parsed token n, tokenAnswer parse config a = some (parsed, token) → reportedExpiresIn parsed = some n →
    0 ≤ n ∧ n < 2 ^ 32

/-- A hit is safe: token and expiry come from one exchange, whose token still lives by the clock before it was asked for. -/
def SafeHit (cache : TokenCache) (now : Int) : Prop :=
  ∃ exchange n, cache.tokenOf = some exchange ∧ cache.expiryOf = some exchange ∧ exchange.expiresIn = some n ∧
    now < exchange.sentAt + n

/-- What a refresh that gets a token must meet: from the metadata server, the clock has not run past what the margin
allows; and without a lifetime, there is no expiry in the future left behind by an empty token. -/
def Timely (parse : Text → Except Text Json) (config : PubSubConfig) (cache : TokenCache) (a : TokenCall) : Prop :=
  Refreshes config cache a → ∀ parsed token, tokenAnswer parse config a = some (parsed, token) → token ≠ [] →
    match reportedExpiresIn parsed with
    | some n => config.credentialsFile = [] → 0 < margin (toInt32 n) → a.later + margin (toInt32 n) ≤ a.now + n
    | none   => cache.cachedToken_ = [] → cache.tokenExpiryEpoch_ ≤ a.later

/-- What the cache holds is nothing, or has expired, or is safe until it expires. -/
def Inv (last : Int) (cache : TokenCache) : Prop :=
  cache.cachedToken_ = [] ∨ cache.tokenExpiryEpoch_ ≤ last ∨
    ∃ exchange n, cache.tokenOf = some exchange ∧ cache.expiryOf = some exchange ∧ exchange.expiresIn = some n ∧
      cache.tokenExpiryEpoch_ ≤ exchange.sentAt + n

theorem Inv.mono {last last' : Int} {cache : TokenCache} (h : Inv last cache) (hle : last ≤ last') : Inv last' cache := by
  rcases h with h | h | h
  · exact Or.inl h
  · exact Or.inr (Or.inl (by omega))
  · exact Or.inr (Or.inr h)

theorem Inv.safeHit {last : Int} {cache : TokenCache} {a : TokenCall} (h : Inv last cache) (hlast : last ≤ a.now)
    (hhits : Hits config cache a) : SafeHit cache a.now := by
  obtain ⟨-, -, htoken, hnow⟩ := hhits
  rcases h with h | h | ⟨exchange, n, htok, hexp, hn, hle⟩
  · exact absurd h htoken
  · omega
  · exact ⟨exchange, n, htok, hexp, hn, by omega⟩

/-- One call keeps the invariant, if it is timely. -/
theorem Inv.step {last : Int} {cache : TokenCache} {a : TokenCall} (call : Nat) (h : Inv last cache)
    (hlast : last ≤ a.now) (hlater : a.now ≤ a.later) (hreports : ReportsLifetime parse config a)
    (htimely : Timely parse config cache a) : Inv a.later (bearerToken parse config call a cache).2 := by
  by_cases href : Refreshes config cache a
  · rw [bearerToken_of_refreshes call href]
    cases hans : tokenAnswer parse config a with
    | none => exact h.mono (by omega)
    | some found =>
      obtain ⟨parsed, token⟩ := found
      by_cases htoken : token = []
      · -- an empty token is never returned from the cache
        subst htoken
        cases hrep : reportedExpiresIn parsed with
        | some n =>
          simp only [store_of_reported hrep]
          exact Or.inl rfl
        | none =>
          simp only [store_of_not_reported hrep]
          exact Or.inl rfl
      · have hcond := htimely href parsed token hans htoken
        cases hrep : reportedExpiresIn parsed with
        | some n =>
          obtain ⟨hn0, hn⟩ := hreports parsed token n hans hrep
          have hmargin := margin_le (toInt32 n)
          have h32 := toInt32_le hn0 hn
          simp only [hrep] at hcond
          simp only [store_of_reported hrep]
          by_cases hfile : config.credentialsFile = []
          · by_cases hpos : 0 < margin (toInt32 n)
            · have hle := hcond hfile hpos
              refine Or.inr (Or.inr ⟨_, n, rfl, rfl, hrep, ?_⟩)
              simp only [exchangeOf, sentAt, if_pos hfile]
              exact hle
            · refine Or.inr (Or.inl ?_)
              simp only
              omega
          · refine Or.inr (Or.inr ⟨_, n, rfl, rfl, hrep, ?_⟩)
            simp only [exchangeOf, sentAt, if_neg hfile]
            omega
        | none =>
          simp only [hrep] at hcond
          simp only [store_of_not_reported hrep]
          refine Or.inr (Or.inl ?_)
          simp only
          by_cases hempty : cache.cachedToken_ = []
          · exact hcond hempty
          · have hexpired : cache.tokenExpiryEpoch_ ≤ a.now := href.2.2.resolve_left hempty
            omega
  · rw [bearerToken_of_not_refreshes call href]
    exact h.mono (by omega)

/-- The reading of the clock that a sequence of calls ends with. -/
def lastReading : Int → List TokenCall → Int
  | last, []     => last
  | _, a :: rest => lastReading a.later rest

theorem ordered_append : ∀ {pre post : List TokenCall} {last : Int},
    Ordered last (pre ++ post) ↔ Ordered last pre ∧ Ordered (lastReading last pre) post
  | [], _, _ => by simp [Ordered, lastReading]
  | a :: pre, post, last => by
    have hrest : Ordered a.later (pre ++ post) ↔ Ordered a.later pre ∧ Ordered (lastReading a.later pre) post :=
      ordered_append
    simp only [List.cons_append, Ordered, lastReading, hrest]
    simp only [and_assoc]

/-- Every call of the sequence is timely in the state it finds. -/
def AllTimely (parse : Text → Except Text Json) (config : PubSubConfig) (calls : List TokenCall) : Prop :=
  ∀ pre a post, calls = pre ++ a :: post → Timely parse config (cacheAfter parse config 0 {} pre) a

theorem cacheAfter_append (parse : Text → Except Text Json) (config : PubSubConfig) : ∀ (pre post : List TokenCall)
    (call : Nat) (cache : TokenCache), cacheAfter parse config call cache (pre ++ post) =
      cacheAfter parse config (call + pre.length) (cacheAfter parse config call cache pre) post
  | [], _, _, _ => rfl
  | a :: pre, post, call, cache => by
    simp only [List.cons_append, cacheAfter, cacheAfter_append parse config pre post, List.length_cons]
    congr 1
    omega

theorem cacheAfter_concat (parse : Text → Except Text Json) (config : PubSubConfig) (pre : List TokenCall) (a : TokenCall) :
    cacheAfter parse config 0 {} (pre ++ [a]) =
      (bearerToken parse config pre.length a (cacheAfter parse config 0 {} pre)).2 := by
  rw [cacheAfter_append, Nat.zero_add]
  rfl

/-- Along timely calls the invariant holds. -/
theorem inv_cacheAfter {start : Int} : ∀ {calls : List TokenCall}, Ordered start calls →
    (∀ a ∈ calls, ReportsLifetime parse config a) → AllTimely parse config calls →
      Inv (lastReading start calls) (cacheAfter parse config 0 {} calls) := by
  intro calls
  induction calls using List.reverseRecOn with
  | nil => exact fun _ _ _ => Or.inl rfl
  | append_singleton pre a ih =>
    intro hclock hreports htimely
    obtain ⟨hpre, hlast, hlater, -⟩ := ordered_append.1 hclock
    have hinv := ih hpre (fun b hb => hreports b (List.mem_append_left _ hb))
      fun pre' b post hsplit => htimely pre' b (post ++ [a]) (by rw [hsplit]; simp)
    have hreading : lastReading start (pre ++ [a]) = a.later := by
      clear hinv hclock hreports htimely hpre hlast hlater ih
      induction pre generalizing start with
      | nil => rfl
      | cons b pre ih => exact ih
    rw [hreading, cacheAfter_concat]
    exact hinv.step pre.length hlast hlater (hreports a (by simp)) (htimely pre a [] rfl)

/-- A call that asks for nothing, at a reading of the clock. -/
def probe (now : Int) : TokenCall where
  now := now
  later := now
  readFile := .error missingCredentials
  buildServiceAccountJwt _ _ _ _ := .error missingCredentials
  request _ := .error noCredentials

/-- A refresh that is not timely can be followed by a hit that is not safe. -/
theorem unsafe_of_not_timely {cache : TokenCache} {a : TokenCall} (call : Nat)
    (h : ¬ Timely parse config cache a) : ∃ now, a.later ≤ now ∧
      Hits config (bearerToken parse config call a cache).2 (probe now) ∧
      ¬ SafeHit (bearerToken parse config call a cache).2 now := by
  unfold Timely at h
  push Not at h
  obtain ⟨href, parsed, token, hans, htoken, hcond⟩ := h
  have hcache := @bearerToken_of_refreshes parse _ _ _ call href
  rw [hans] at hcache
  simp only at hcache
  cases hrep : reportedExpiresIn parsed with
  | some n =>
    simp only [hrep] at hcond
    push Not at hcond
    obtain ⟨hfile, hpos, hlate⟩ := hcond
    rw [store_of_reported hrep] at hcache
    rw [hcache]
    refine ⟨max a.later (a.now + n), le_max_left .., ⟨href.1, href.2.1, htoken, ?_⟩, ?_⟩
    · simp only [probe]
      omega
    · rintro ⟨exchange, m, htok, -, hm, hlt⟩
      cases htok
      rw [exchangeOf] at hm
      simp only [hrep, Option.some.injEq] at hm
      subst hm
      simp only [exchangeOf, sentAt, if_pos hfile] at hlt
      omega
  | none =>
    simp only [hrep] at hcond
    push Not at hcond
    obtain ⟨hempty, hfuture⟩ := hcond
    rw [store_of_not_reported hrep] at hcache
    rw [hcache]
    refine ⟨a.later, le_refl _, ⟨href.1, href.2.1, htoken, hfuture⟩, ?_⟩
    rintro ⟨exchange, m, htok, -, hm, -⟩
    cases htok
    rw [exchangeOf] at hm
    simp only [hrep] at hm
    cases hm

/-- **The token cache**: a hit returns the cached token; along timely calls every hit is safe; and after a call that is
not timely a hit that is not safe is possible. -/
theorem token_cache_safe (parse : Text → Except Text Json) (config : PubSubConfig) (start : Int) (calls : List TokenCall)
    (hclock : Ordered start calls) (hreports : ∀ a ∈ calls, ReportsLifetime parse config a) :
    (∀ pre a post, calls = pre ++ a :: post → Hits config (cacheAfter parse config 0 {} pre) a →
      bearerToken parse config pre.length a (cacheAfter parse config 0 {} pre) =
        (.ok (cacheAfter parse config 0 {} pre).cachedToken_, cacheAfter parse config 0 {} pre)) ∧
    (AllTimely parse config calls → ∀ pre a post, calls = pre ++ a :: post →
      Hits config (cacheAfter parse config 0 {} pre) a → SafeHit (cacheAfter parse config 0 {} pre) a.now) ∧
    ∀ pre a, calls = pre ++ [a] → ¬ Timely parse config (cacheAfter parse config 0 {} pre) a →
      ∃ next, Ordered start (calls ++ [next]) ∧ Hits config (cacheAfter parse config 0 {} calls) next ∧
        ¬ SafeHit (cacheAfter parse config 0 {} calls) next.now := by
  refine ⟨fun pre a post _ hhits => bearerToken_of_hits pre.length hhits, ?_, ?_⟩
  · rintro htimely pre a post rfl hhits
    obtain ⟨hpre, hlast, -⟩ := ordered_append.1 hclock
    have hinv := inv_cacheAfter hpre (fun b hb => hreports b (List.mem_append_left _ hb))
      fun pre' b post' hsplit => htimely pre' b (post' ++ a :: post) (by rw [hsplit]; simp)
    exact hinv.safeHit hlast hhits
  · rintro pre a rfl hnot
    obtain ⟨now, hlater, hhits, hunsafe⟩ := unsafe_of_not_timely pre.length hnot
    rw [← cacheAfter_concat] at hhits hunsafe
    obtain ⟨hpre, hlast, hle, -⟩ := ordered_append.1 hclock
    refine ⟨probe now, ?_, hhits, hunsafe⟩
    rw [List.append_assoc, ordered_append]
    exact ⟨hpre, hlast, hle, hlater, le_refl _, trivial⟩

/-! ## A metadata server with short lifetimes -/

/-- The answer `{"access_token": "t", "expires_in": expiresIn}` of the metadata server, after a request of `took` seconds. -/
def metadataCall (now took : Int) : TokenCall where
  now := now
  later := now + took
  readFile := .error missingCredentials
  buildServiceAccountJwt _ _ _ _ := .error missingCredentials
  request _ := .ok { status := 200 }

def answering (expiresIn : Int) (_ : Text) : Except Text Json :=
  .ok (.object [("access_token".toList, .string ['t']), ("expires_in".toList, .number expiresIn)])

def metadataConfig : PubSubConfig := { projectId := ['p'], requestTopic := "requests".toList }

theorem metadataAnswer_metadataCall (n now took : Int) : tokenAnswer (answering n) metadataConfig (metadataCall now took) =
    some (.object [("access_token".toList, .string ['t']), ("expires_in".toList, .number n)], ['t']) := rfl

theorem reportsLifetime_metadataCall {n : Int} (h0 : 0 ≤ n) (h : n < 2 ^ 32) (now took : Int) :
    ReportsLifetime (answering n) metadataConfig (metadataCall now took) := by
  intro parsed token m hans hm
  rw [metadataAnswer_metadataCall] at hans
  cases hans
  have hn : reportedExpiresIn (.object [("access_token".toList, .string ['t']), ("expires_in".toList, .number n)]) =
      some n := rfl
  rw [hn] at hm
  cases hm
  exact ⟨h0, h⟩

/-- An hour of lifetime leaves a minute for the request. -/
theorem timely_metadataCall {took : Int} (htook : took ≤ 60) (cache : TokenCache) (now : Int) :
    Timely (answering 3600) metadataConfig cache (metadataCall now took) := by
  intro _ parsed token hans _
  rw [metadataAnswer_metadataCall] at hans
  cases hans
  intro _ _
  have hmargin : margin (toInt32 3600) = 3540 := by decide
  rw [hmargin]
  simp only [metadataCall]
  omega

/-- With an hour of lifetime a request of ten seconds is within the margin. -/
theorem token_cache_safe_hour :
    Hits metadataConfig (cacheAfter (answering 3600) metadataConfig 0 {} [metadataCall 0 10]) (metadataCall 3549 0) ∧
      SafeHit (cacheAfter (answering 3600) metadataConfig 0 {} [metadataCall 0 10]) 3549 := by
  have hhits : Hits metadataConfig (cacheAfter (answering 3600) metadataConfig 0 {} [metadataCall 0 10])
      (metadataCall 3549 0) := ⟨rfl, rfl, by decide, by decide +kernel⟩
  refine ⟨hhits, ?_⟩
  refine (token_cache_safe (answering 3600) metadataConfig 0 [metadataCall 0 10, metadataCall 3549 0]
    ⟨by decide, by decide, by decide, by decide, trivial⟩ ?_).2.1 ?_ [metadataCall 0 10] (metadataCall 3549 0) [] rfl hhits
  · intro a ha
    simp only [List.mem_cons, List.not_mem_nil, or_false] at ha
    rcases ha with rfl | rfl
    · exact reportsLifetime_metadataCall (by decide) (by decide) 0 10
    · exact reportsLifetime_metadataCall (by decide) (by decide) 3549 0
  · intro pre a post hsplit
    have ha : a ∈ [metadataCall 0 10, metadataCall 3549 0] := by
      rw [hsplit]
      simp
    simp only [List.mem_cons, List.not_mem_nil, or_false] at ha
    rcases ha with rfl | rfl
    · exact timely_metadataCall (by decide) _ 0
    · exact timely_metadataCall (by decide) _ 3549

/-- A lifetime of 90 seconds and a request of one: at second 90 the token is still taken from the cache. -/
theorem not_safeHit_short_lifetime :
    Ordered 0 [metadataCall 0 1, metadataCall 90 0] ∧
      (∀ a ∈ [metadataCall 0 1, metadataCall 90 0], ReportsLifetime (answering 90) metadataConfig a) ∧
      Hits metadataConfig (cacheAfter (answering 90) metadataConfig 0 {} [metadataCall 0 1]) (metadataCall 90 0) ∧
      ¬ SafeHit (cacheAfter (answering 90) metadataConfig 0 {} [metadataCall 0 1]) 90 := by
  refine ⟨⟨by decide, by decide, by decide, by decide, trivial⟩, fun a ha => ?_,
    ⟨rfl, rfl, by decide, by decide +kernel⟩, ?_⟩
  · simp only [List.mem_cons, List.not_mem_nil, or_false] at ha
    rcases ha with rfl | rfl
    · exact reportsLifetime_metadataCall (by decide) (by decide) 0 1
    · exact reportsLifetime_metadataCall (by decide) (by decide) 90 0
  · rintro ⟨exchange, n, htok, -, hn, hlt⟩
    cases htok
    cases hn
    revert hlt
    decide

end Token
end PubSub
end Graftcode
