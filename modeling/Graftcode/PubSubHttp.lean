import Graftcode.PubSubClient
import Graftcode.PubSubServer
/-!
# PubSubHttp — what a session hands to libcurl

`Request` and `BearerToken` of `PubSubUtil.cpp`, one level below the events of `PubSubSession`: every request event is one
run of `Request`, and a run leaves the transfers it makes.  libcurl is not modelled; `login` stands for its reading of the
authority of a URL, a login in which it sends as an `Authorization: Basic` header.
-/
namespace Graftcode
namespace PubSub

open Prog (emit call ofExcept attempt iterate forEach Keeps)

/-- What libcurl is given, but for the body and the timeouts. -/
structure Transfer where
  method : Text
  url : Text
  headers : List Text

/-- What a transfer is for: an operation on the service, or a token. -/
inductive Purpose where
  | pubSub
  | token
  deriving DecidableEq

inductive HttpEvent where
  | dumped (result : Except Error Unit)
  | transfer (purpose : Purpose) (sent : Transfer) (answer : HttpResult)
  -- `cachedToken_`, when it holds a token that has not expired
  | cachedToken (token : Option Text)
  -- the `token_uri` of the credentials file, once an assertion is signed for it
  | readCredentials (tokenUri : Except Error Text)
  | tokenStored (result : Except Error Unit)

def hasContentType (headers : List Text) : Bool := headers.any ("Content-Type:".toList.isPrefixOf ·)

/-- Every string goes through its `c_str()`. -/
def transferOf (method url : Text) (headers : List Text) (authorization : Text) : Transfer where
  method := method
  url := cString url
  headers := (if hasContentType headers then [] else ["Content-Type: application/json".toList]) ++
    (if authorization.isEmpty then [] else [cString authorization]) ++ headers.map cString

/-- `Request`, once the authorization is resolved. -/
def perform (purpose : Purpose) (method url : Text) (headers : List Text) (authorization : Text) :
    Prog Error HttpEvent HttpResult :=
  emit (HttpEvent.transfer purpose (transferOf method url headers authorization))

def noAccessToken : Error := .exn (.std "Pub/Sub plugin: token endpoint did not return access_token".toList)

def noCredentials : Error := .exn (.std ("Pub/Sub plugin: no credentials. Set accessToken, credentialsFile, ".toList ++
  "GOOGLE_APPLICATION_CREDENTIALS, or emulatorHost / PUBSUB_EMULATOR_HOST".toList))

def kMetadataTokenUrl : Text :=
  "http://metadata.google.internal/computeMetadata/v1/instance/service-accounts/default/token".toList

section Session

/- `nlohmann::json::parse`; the text is that of its exception. -/
variable (parse : Text → Except Text Json)

def refreshFromServiceAccount : Prog Error HttpEvent Text := do
  let tokenUri ← call HttpEvent.readCredentials
  let result ← perform .token "POST".toList tokenUri ["Content-Type: application/x-www-form-urlencoded".toList] []
  ofExcept (throwIfHttpFailed "token exchange".toList result)
  let parsed ← ofExcept ((parse result.body).mapError fun what => Error.exn (.std what))
  match parsed.findString? "access_token".toList with
  | none       => Prog.throw noAccessToken
  | some token => do
    call HttpEvent.tokenStored
    pure token

def tryMetadataToken : Prog Error HttpEvent (Option Text) := do
  let result ← perform .token "GET".toList kMetadataTokenUrl ["Metadata-Flavor: Google".toList] []
  if result.status ≠ 200 then pure none
  else
    match (parse result.body).toOption.bind (Json.findString? "access_token".toList) with
    | none       => pure none
    | some token => do
      call HttpEvent.tokenStored
      pure (some token)

def bearerToken (config : PubSubConfig) : Prog Error HttpEvent Text :=
  if !config.emulatorHost.isEmpty then pure []
  else if !config.accessToken.isEmpty then pure config.accessToken
  else do
    let cached ← emit HttpEvent.cachedToken
    match cached with
    | some token => pure token
    | none       =>
      if !config.credentialsFile.isEmpty then refreshFromServiceAccount parse
      else do
        let token ← tryMetadataToken parse
        match token with
        | some token => pure token
        | none       => Prog.throw noCredentials

/-- `Request` as the operations of the session call it: the body is dumped, the token resolved, and the transfer made. -/
def request (config : PubSubConfig) (sent : HttpRequest) : Prog Error HttpEvent HttpResult := do
  call HttpEvent.dumped
  if sent.authenticate then
    let token ← bearerToken parse config
    perform .pubSub sent.method sent.url [] ("Authorization: Bearer ".toList ++ token)
  else perform .pubSub sent.method sent.url [] []

/-- What a run came to, from what its caller got. -/
def outcomeOf : Except Error HttpResult → Outcome Error HttpResult
  | .ok result => .done result
  | .error e   => .threw e

/-- The runs of `Request` behind the request events of a trace. -/
def Performed (config : PubSubConfig) : List Event → List HttpEvent → Prop
  | [], u                        => u = []
  | .request sent answer :: t, u =>
    ∃ v w, u = v ++ w ∧ (request parse config sent).Runs v (outcomeOf answer) ∧ Performed config t w
  | _ :: t, u                    => Performed config t u

/-- The traces of a thread of the client or the server, in the role its configuration is valid for. -/
def Issues (config : PubSubConfig) (t : List Event) : Prop :=
  let parse := fun text => (parse text).toOption
  (validateClientConfig config = .ok () ∧
      ((∃ data size fuel o, (callClient config data size fuel).Runs t o) ∨
        config.oneWay = false ∧ ∃ fuel o, (dispatchReplies parse config fuel).Runs t o)) ∨
    validateServerConfig config = .ok () ∧ ∃ configured fuel fuel' o, (start parse config configured fuel fuel').Runs t o

end Session

/-! ## Confinement -/

/-- A string that is one segment of a path, and nothing else. -/
def PlainSegment (segment : Text) : Prop :=
  segment ≠ [] ∧ segment ≠ ['.'] ∧ segment ≠ ['.', '.'] ∧
    ∀ character ∈ segment, character.isAlphanum = true ∨ character = '-' ∨ character = '_' ∨ character = '.'

/-- The fixed verbs of the service. -/
def verbs : List Text := [[], ":publish".toList, ":pull".toList, ":acknowledge".toList]

/-- The URL of an operation on a resource of the configured project, at the configured endpoint. -/
def ConfinedUrl (config : PubSubConfig) (url : Text) : Prop :=
  ∃ collection id verb, (collection = "topics".toList ∨ collection = "subscriptions".toList) ∧ verb ∈ verbs ∧
    PlainSegment config.projectId ∧ PlainSegment id ∧ url = endpointBase config ++ "/v1/projects/".toList ++
      config.projectId ++ "/".toList ++ collection ++ "/".toList ++ id ++ verb

/-- What is behind `://`. -/
def afterScheme : Text → Text
  | ':' :: '/' :: '/' :: rest => rest
  | _ :: rest                 => afterScheme rest
  | []                        => []

def isAuthorityChar (character : Char) : Bool := character != '/' && character != '?' && character != '#'

/-- The authority of a URL: up to its path, its query or its fragment. -/
def authority (url : Text) : Text := (afterScheme url).takeWhile isAuthorityChar

/-- An `Authorization` header goes out: one of the list, or one libcurl adds for a login in the URL. -/
def CarriesAuthorization (login : Text → Bool) (sent : Transfer) : Prop :=
  (∃ header ∈ sent.headers, "Authorization:".toList <+: header) ∨ login (authority sent.url) = true

/-- Every transfer of an operation goes to a confined URL, and to an emulator goes neither a token request nor an
authorization. -/
structure ConfinedTrace (parse : Text → Except Text Json) (login : Text → Bool) (config : PubSubConfig)
    (t : List Event) : Prop where
  url : ∀ u, Performed parse config t u → ∀ sent answer, .transfer .pubSub sent answer ∈ u → ConfinedUrl config sent.url
  noToken : config.emulatorHost ≠ [] → ∀ u, Performed parse config t u → ∀ sent answer,
    HttpEvent.transfer .token sent answer ∉ u
  noAuthorization : config.emulatorHost ≠ [] → ∀ u, Performed parse config t u → ∀ purpose sent answer,
    .transfer purpose sent answer ∈ u → ¬CarriesAuthorization login sent

/-- No NUL ends the URL within the host, and libcurl finds no login in it. -/
def PlainHost (login : Text → Bool) (config : PubSubConfig) : Prop :=
  '\x00' ∉ config.emulatorHost ∧ (config.emulatorHost ≠ [] → login (authority (endpointBase config)) = false)

/-! ## What the validation admits -/

theorem plainSegment_of_projectId {value : Text} (h : isValidProjectId value = true) : PlainSegment value := by
  unfold isValidProjectId at h
  simp only [Bool.and_eq_true, Bool.not_eq_true', Bool.or_eq_false_iff, List.isEmpty_eq_false_iff, List.all_eq_true,
    Bool.or_eq_true, beq_iff_eq] at h
  obtain ⟨⟨hne, -⟩, hall⟩ := h
  refine ⟨hne, ?_, ?_, fun character hm => ?_⟩
  · rintro rfl
    exact absurd (hall '.' (by decide)) (by decide)
  · rintro rfl
    exact absurd (hall '.' (by decide)) (by decide)
  · rcases hall character hm with (ha | hd) | hu
    · exact Or.inl ha
    · exact Or.inr (Or.inl hd)
    · exact Or.inr (Or.inr (Or.inl hu))

theorem plainSegment_of_resourceId {value : Text} (h : isValidResourceId value = true) : PlainSegment value := by
  cases value with
  | nil => cases h
  | cons front rest =>
    simp only [isValidResourceId, Bool.and_eq_true, Bool.not_eq_true', Bool.or_eq_false_iff, decide_eq_false_iff_not,
      List.all_eq_true, Bool.or_eq_true, beq_iff_eq] at h
    obtain ⟨⟨⟨hlen, -⟩, -⟩, hall⟩ := h
    refine ⟨List.cons_ne_nil _ _, ?_, ?_, fun character hm => ?_⟩
    · intro heq
      rw [heq] at hlen
      exact hlen (by decide)
    · intro heq
      rw [heq] at hlen
      exact hlen (by decide)
    · rcases hall character hm with ((ha | hd) | hu) | hp
      · exact Or.inl ha
      · exact Or.inr (Or.inl hd)
      · exact Or.inr (Or.inr (Or.inl hu))
      · exact Or.inr (Or.inr (Or.inr hp))

/-- What a client's configuration has been checked for. -/
structure ValidClient (config : PubSubConfig) : Prop where
  project : isValidProjectId config.projectId = true
  requestTopic : isValidResourceId config.requestTopic = true
  replyTopic : config.oneWay = false → isValidResourceId config.replyTopic = true
  replySubscription : config.oneWay = false → isValidResourceId config.replySubscription = true

structure ValidServer (config : PubSubConfig) : Prop where
  project : isValidProjectId config.projectId = true
  requestTopic : isValidResourceId config.requestTopic = true
  requestSubscription : isValidResourceId config.requestSubscription = true

theorem validClient {config : PubSubConfig} (h : validateClientConfig config = .ok ()) : ValidClient config := by
  obtain ⟨hcommon, htopic, hreply⟩ := validateClientConfig_ok.1 h
  exact ⟨(validateCommon_ok.1 hcommon).1, htopic, fun hw => (hreply hw).1, fun hw => (hreply hw).2⟩

theorem validServer {config : PubSubConfig} (h : validateServerConfig config = .ok ()) : ValidServer config := by
  obtain ⟨hcommon, htopic, hsubscription⟩ := validateServerConfig_ok.1 h
  exact ⟨(validateCommon_ok.1 hcommon).1, htopic, hsubscription⟩

/-! ## What the plugin asks of `Request` -/

def Operation (config : PubSubConfig) (sent : HttpRequest) : Prop :=
  sent.authenticate = config.emulatorHost.isEmpty ∧ ConfinedUrl config sent.url

def Operations (config : PubSubConfig) (e : Event) : Prop :=
  ∀ sent answer, e = .request sent answer → Operation config sent

/-- Whatever it is answered, the program asks for operations only. -/
abbrev KeepsOperations {α : Type} (config : PubSubConfig) (p : Prog Error Event α) (h : List Event) : Prop :=
  Keeps (fun _ _ => True) (fun _ e => Operations config e) p h

section Operations

variable {config : PubSubConfig}

theorem confinedUrl_resourceUrl (hp : isValidProjectId config.projectId = true) (collection verb : Text) {id : Text}
    (hid : isValidResourceId id = true) (hc : collection = "topics".toList ∨ collection = "subscriptions".toList)
    (hv : verb ∈ verbs) : ConfinedUrl config (resourceUrl config collection id ++ verb) :=
  ⟨collection, id, verb, hc, hv, plainSegment_of_projectId hp, plainSegment_of_resourceId hid, rfl⟩

theorem operations_of_request {sent : HttpRequest} (h : Operation config sent) (answer : Except Error HttpResult) :
    Operations config (.request sent answer) := by
  intro sent' answer' heq
  cases heq
  exact h

section Project

variable (hp : isValidProjectId config.projectId = true)
include hp

theorem operation_topic {topic : Text} (ht : isValidResourceId topic = true) :
    Operation config (topicRequest config topic) := by
  have hu := confinedUrl_resourceUrl hp "topics".toList [] ht (Or.inl rfl) (by decide)
  rw [List.append_nil] at hu
  exact ⟨rfl, hu⟩

theorem operation_subscription {subscription : Text} (hs : isValidResourceId subscription = true) (topic : Text) :
    Operation config (subscriptionRequest config subscription topic) := by
  have hu := confinedUrl_resourceUrl hp "subscriptions".toList [] hs (Or.inr rfl) (by decide)
  rw [List.append_nil] at hu
  exact ⟨rfl, hu⟩

theorem operation_publish {topic : Text} (ht : isValidResourceId topic = true) (data : Bytes)
    (attributes : List (Text × Text)) : Operation config (publishRequest config topic data attributes) :=
  ⟨rfl, confinedUrl_resourceUrl hp "topics".toList ":publish".toList ht (Or.inl rfl) (by decide)⟩

theorem operation_pull {subscription : Text} (hs : isValidResourceId subscription = true) (maxMessages : Nat) :
    Operation config (pullRequest config subscription maxMessages) :=
  ⟨rfl, confinedUrl_resourceUrl hp "subscriptions".toList ":pull".toList hs (Or.inr rfl) (by decide)⟩

theorem operation_acknowledge {subscription : Text} (hs : isValidResourceId subscription = true) (ackIds : List Text) :
    Operation config (acknowledgeRequest config subscription ackIds) :=
  ⟨rfl, confinedUrl_resourceUrl hp "subscriptions".toList ":acknowledge".toList hs (Or.inr rfl) (by decide)⟩

/-! ### The five operations -/

theorem operations_ensureTopic {topic : Text} (ht : isValidResourceId topic = true) (h : List Event) :
    KeepsOperations config (ensureTopic config topic) h :=
  (safe_ensureTopic config topic _ h).mpr fun answer _ => ⟨operations_of_request (operation_topic hp ht) answer, trivial⟩

theorem operations_ensureSubscription {subscription : Text} (hs : isValidResourceId subscription = true) (topic : Text)
    (h : List Event) :
    KeepsOperations config (ensureSubscription config subscription topic) h :=
  (safe_ensureSubscription config subscription topic _ h).mpr fun answer _ =>
    ⟨operations_of_request (operation_subscription hp hs topic) answer, trivial⟩

theorem operations_publish {topic : Text} (ht : isValidResourceId topic = true) (data : Bytes)
    (attributes : List (Text × Text)) (h : List Event) :
    KeepsOperations config (publish config topic data attributes) h := by
  apply (safe_publish config topic data attributes _ h).mpr
  split
  · trivial
  · exact fun answer _ => ⟨operations_of_request (operation_publish hp ht data attributes) answer, trivial⟩

theorem operations_acknowledge {subscription : Text} (hs : isValidResourceId subscription = true) (ackIds : List Text)
    (h : List Event) :
    KeepsOperations config (acknowledge config subscription ackIds) h := by
  cases ackIds with
  | nil => trivial
  | cons ackId ackIds =>
    exact (safe_acknowledge config subscription ackId ackIds _ h).mpr fun answer _ =>
      ⟨operations_of_request (operation_acknowledge hp hs _) answer, trivial⟩

theorem operations_pull (parse : Text → Option Json) {subscription : Text} (hs : isValidResourceId subscription = true)
    (maxMessages : Nat) (h : List Event) :
    KeepsOperations config (pull parse config subscription maxMessages) h :=
  (safe_pull parse config subscription maxMessages _ h).mpr fun answer _ =>
    ⟨operations_of_request (operation_pull hp hs maxMessages) answer, trivial⟩

end Project

/-! ### The client -/

theorem operations_createResources (hv : ValidClient config) (h : List Event) :
    KeepsOperations config (createResources config) h := by
  unfold createResources
  split
  · refine (operations_ensureTopic hv.project hv.requestTopic h).keeps_bind fun _ h _ => ?_
    split
    · trivial
    · rename_i hw
      have hw : config.oneWay = false := by simpa using hw
      exact (operations_ensureTopic hv.project (hv.replyTopic hw) h).keeps_bind fun _ h _ =>
        operations_ensureSubscription hv.project (hv.replySubscription hw) config.replyTopic h
  · trivial

theorem operations_ensureStarted (hv : ValidClient config) (h : List Event) :
    KeepsOperations config (ensureStarted config) h := by
  unfold ensureStarted
  refine Prog.keeps_emit_bind (fun _ => nofun) fun started => ?_
  split
  · trivial
  refine Prog.keeps_emit_bind (fun _ => nofun) fun started => ?_
  split
  · trivial
  refine Prog.keeps_call_bind (fun _ => nofun) fun _ => ?_
  refine (operations_createResources hv _).keeps_bind fun _ h _ => ?_
  split
  · exact Prog.keeps_emit fun _ => nofun
  · exact Prog.keeps_call_bind (fun _ => nofun) fun _ => Prog.keeps_emit fun _ => nofun

theorem operations_send (hv : ValidClient config) (data : Bytes) (attributes : List (Text × Text)) (fuel : Nat)
    (h : List Event) :
    KeepsOperations config (send config data attributes fuel) h := by
  unfold send
  refine Prog.keeps_call_bind (fun _ => nofun) fun _ => ?_
  refine Prog.keeps_iterate (fun _ h => Prog.Safe.keeps_tryCatch ?_ fun e h => ?_) fuel () _
  · exact (operations_publish hv.project hv.requestTopic data attributes h).keeps_bind fun _ _ _ => trivial
  · unfold publishAgain
    split
    · refine Prog.keeps_emit_bind (fun _ => nofun) fun before => ?_
      split <;> trivial
    · trivial

theorem operations_awaitReply (hv : ValidClient config) (data : Bytes) (correlationId : Text) (fuel : Nat)
    (h : List Event) :
    KeepsOperations config (awaitReply config data correlationId fuel) h :=
  PendingReplies.keeps_withTicket (fun _ _ _ => nofun) fun _ => operations_send hv data _ fuel _

theorem operations_callClient (hv : ValidClient config) (data : Option Bytes) (size fuel : Nat) :
    KeepsOperations config (callClient config data size fuel) [] := by
  unfold callClient
  split
  · trivial
  split
  · trivial
  refine (operations_ensureStarted hv []).keeps_bind fun _ h _ => ?_
  refine Prog.keeps_emit_bind (fun _ => nofun) fun correlationId => ?_
  split
  · exact (operations_send hv _ _ fuel _).keeps_bind fun _ _ _ => trivial
  · exact operations_awaitReply hv _ correlationId fuel _

theorem operations_pullFailed (e : Error) (h : List Event) :
    KeepsOperations config (pullFailed e) h := by
  unfold pullFailed failAll
  split
  · split
    · exact Prog.keeps_emit_bind (fun _ => nofun) fun _ => trivial
    · trivial
  · exact Prog.keeps_emit_bind (fun _ => nofun) fun _ => trivial
  · trivial

theorem operations_completeReply (message : PulledMessage) (h : List Event) :
    KeepsOperations config (completeReply message) h := by
  unfold completeReply complete
  split
  · exact Prog.keeps_emit_bind (fun _ => nofun) fun _ => trivial
  · trivial

theorem operations_completions (batch : List PulledMessage) (h : List Event) :
    KeepsOperations config (completeBatch batch) h := by
  refine Prog.keeps_forEach (fun message h => ?_) batch h
  exact (operations_completeReply message h).keeps_bind fun _ _ _ => trivial

theorem operations_dispatched (parse : Text → Option Json) (hv : ValidClient config) (hw : config.oneWay = false)
    (h : List Event) :
    KeepsOperations config (dispatchBatch parse config) h := by
  unfold dispatchBatch
  have hpull := operations_pull hv.project parse (hv.replySubscription hw) config.maxMessages h
  refine (hpull.keeps_tryCatch operations_pullFailed).keeps_bind fun batch h _ => ?_
  have hack := operations_acknowledge hv.project (hv.replySubscription hw)
    ((batch.map PulledMessage.ackId).filter (!·.isEmpty)) h
  refine Prog.Safe.keeps_bind (hack.keeps_attempt.keeps_bind fun _ _ _ => trivial) fun _ h _ => ?_
  exact operations_completions batch h

theorem operations_dispatchReplies (parse : Text → Option Json) (hv : ValidClient config) (hw : config.oneWay = false)
    (fuel : Nat) :
    KeepsOperations config (dispatchReplies parse config fuel) [] := by
  refine Prog.keeps_iterate (fun _ h => ?_) fuel () []
  refine Prog.keeps_emit_bind (fun _ => nofun) fun stopping => ?_
  split
  · trivial
  refine Prog.keeps_emit_bind (fun _ => nofun) fun found => ?_
  split
  · trivial
  exact (operations_dispatched parse hv hw _).keeps_bind fun _ _ _ => trivial

/-! ### The server -/

/-- A reply goes to the topic the request names only once that is a resource id. -/
theorem operations_publishReply (hv : ValidServer config) {message : PulledMessage}
    (hr : config.oneWay = false → isValidResourceId (replyToOf config message) = true) (correlationId : Text)
    (response : Bytes) (h : List Event) :
    Keeps (fun _ _ => True) (fun _ e => Operations config e)
      (publishReply config (replyToOf config message) correlationId response) h := by
  unfold publishReply
  split
  · trivial
  · rename_i hne
    refine (operations_publish hv.project ?_ _ _ h).keeps_attempt
    cases hw : config.oneWay with
    | false => exact hr hw
    | true => simp [replyToOf, hw] at hne

theorem operations_acknowledgeMessage (hv : ValidServer config) (message : PulledMessage) (h : List Event) :
    KeepsOperations config (acknowledgeMessage config message) h := by
  unfold acknowledgeMessage
  split
  · trivial
  · exact (operations_acknowledge hv.project hv.requestSubscription _ h).keeps_attempt.keeps_bind fun _ _ _ => trivial

theorem operations_handled (hv : ValidServer config) (message : PulledMessage) (h : List Event) :
    KeepsOperations config (handleMessage config message) h := by
  unfold handleMessage
  dsimp only
  split
  · trivial
  rename_i hn
  have hr : config.oneWay = false → isValidResourceId (replyToOf config message) = true := by
    intro hw
    simp only [hw, Bool.not_false, Bool.true_and, Bool.or_eq_true, Bool.not_eq_true', not_or] at hn
    simpa using hn.2
  have hprocess : KeepsOperations config (processMessage message.data) h :=
    Prog.keeps_emit_bind (fun _ => nofun) fun _ => (Prog.safe_ofExcept _ _ _).mpr trivial
  refine hprocess.keeps_attempt.keeps_bind fun processed h _ => ?_
  split
  · refine (operations_publishReply hv hr _ _ h).keeps_bind fun published h _ => ?_
    split
    · exact operations_acknowledgeMessage hv message h
    · trivial
  · trivial

theorem operations_openSession (hv : ValidServer config) (h : List Event) :
    KeepsOperations config (openSession config) h := by
  unfold openSession
  refine Prog.keeps_call_bind (fun _ => nofun) fun _ => ?_
  split
  · exact (operations_ensureTopic hv.project hv.requestTopic _).keeps_bind fun _ h _ =>
      operations_ensureSubscription hv.project hv.requestSubscription config.requestTopic h
  · trivial

theorem operations_setUp (hv : ValidServer config) (fuel : Nat) (h : List Event) :
    KeepsOperations config (setUp config fuel) h := by
  refine Prog.keeps_iterate (fun _ h => ?_) fuel () h
  refine Prog.keeps_emit_bind (fun _ => nofun) fun stop => ?_
  split
  · trivial
  refine (operations_openSession hv _).keeps_attempt.keeps_bind fun session h _ => ?_
  split <;> trivial

theorem operations_handleBatch (hv : ValidServer config) (batch : List PulledMessage) (h : List Event) :
    KeepsOperations config (handleBatch config batch) h := by
  refine Prog.keeps_forEach (fun message h => ?_) batch h
  refine Prog.keeps_emit_bind (fun _ => nofun) fun stop => ?_
  split
  · trivial
  · exact (operations_handled hv message _).keeps_bind fun _ _ _ => trivial

theorem operations_receive (parse : Text → Option Json) (hv : ValidServer config) (fuel : Nat) (h : List Event) :
    KeepsOperations config (receive parse config fuel) h := by
  refine Prog.keeps_iterate (fun _ h => ?_) fuel () h
  refine Prog.keeps_emit_bind (fun _ => nofun) fun stop => ?_
  split
  · trivial
  have hpull := operations_pull hv.project parse hv.requestSubscription 1 (.stopRequested stop :: h)
  have hbatch := hpull.keeps_bind fun batch h _ => operations_handleBatch hv batch h
  exact hbatch.keeps_attempt.keeps_bind fun _ _ _ => trivial

theorem operations_start (parse : Text → Option Json) (hv : ValidServer config) (configured : Bool) (fuel fuel' : Nat) :
    KeepsOperations config (start parse config configured fuel fuel') [] := by
  unfold start
  refine Prog.Safe.keeps_tryCatch ?_ fun _ _ => trivial
  refine Prog.Safe.keeps_bind (Q := fun _ _ => True) ((Prog.safe_ofExcept _ _ _).mpr trivial) fun _ h _ => ?_
  cases configured with
  | true => exact (operations_setUp hv fuel h).keeps_bind fun _ h _ => operations_receive parse hv fuel' h
  | false => trivial

end Operations

/-- Every request of the client and of the server is one of the five operations. -/
theorem operations_of_issues {parse : Text → Except Text Json} {config : PubSubConfig} {t : List Event}
    (h : Issues parse config t) : ∀ sent answer, .request sent answer ∈ t → Operation config sent := by
  have hj : Prog.Admits (fun _ e => Operations config e) [] t := by
    rcases h with ⟨hv, ⟨data, size, fuel, o, hr⟩ | ⟨hw, fuel, o, hr⟩⟩ | ⟨hv, configured, fuel, fuel', o, hr⟩
    · exact (operations_callClient (validClient hv) data size fuel).admits_of_keeps hr
    · exact (operations_dispatchReplies _ (validClient hv) hw fuel).admits_of_keeps hr
    · exact (operations_start _ (validServer hv) configured fuel fuel').admits_of_keeps hr
  intro sent answer hm
  obtain ⟨before, after, rfl⟩ := List.append_of_mem hm
  exact (Prog.admits_iff _ _ _).1 hj before _ after rfl sent answer rfl

/-! ## The transfers of a request -/

section Transfers

variable {parse : Text → Except Text Json} {login : Text → Bool} {config : PubSubConfig}

/-- The transfer of an operation on an emulator: no token is resolved for it. -/
def plainTransfer (sent : HttpRequest) : Transfer := transferOf sent.method sent.url [] []

/-- An operation's transfer goes to the URL of the operation. -/
def TransfersTo (sent : HttpRequest) (e : HttpEvent) : Prop :=
  ∀ made answer, e = .transfer .pubSub made answer → made.url = cString sent.url

theorem keeps_bearerToken (sent : HttpRequest) (h : List HttpEvent) :
    Keeps (fun _ _ => True) (fun _ e => TransfersTo sent e) (bearerToken parse config) h := by
  unfold bearerToken
  split
  · trivial
  split
  · trivial
  refine Prog.keeps_emit_bind (fun _ => nofun) fun cached => ?_
  split
  · trivial
  split
  · unfold refreshFromServiceAccount
    refine Prog.keeps_call_bind (fun _ => nofun) fun tokenUri => ?_
    refine Prog.keeps_emit_bind (fun _ => nofun) fun result => ?_
    refine Prog.Safe.keeps_bind (Q := fun _ _ => True) ((Prog.safe_ofExcept _ _ _).mpr trivial) fun _ h _ => ?_
    refine Prog.Safe.keeps_bind (Q := fun _ _ => True) ((Prog.safe_ofExcept _ _ _).mpr trivial) fun parsed h _ => ?_
    split
    · trivial
    · exact Prog.keeps_call_bind (fun _ => nofun) fun _ => trivial
  · refine Prog.Safe.keeps_bind (Q := fun _ _ => True) ?_ fun token h _ => ?_
    · unfold tryMetadataToken
      refine Prog.keeps_emit_bind (fun _ => nofun) fun result => ?_
      split
      · trivial
      split
      · trivial
      · exact Prog.keeps_call_bind (fun _ => nofun) fun _ => trivial
    · split <;> trivial

theorem keeps_request (sent : HttpRequest) :
    Keeps (fun _ _ => True) (fun _ e => TransfersTo sent e) (request parse config sent) [] := by
  have hperform : ∀ authorization h, Keeps (fun _ _ => True) (fun _ e => TransfersTo sent e)
      (perform .pubSub sent.method sent.url [] authorization) h := by
    refine fun authorization h => Prog.keeps_emit fun answer made answer' heq => ?_
    cases heq
    rfl
  unfold request
  refine Prog.keeps_call_bind (fun _ => nofun) fun _ => ?_
  split
  · exact (keeps_bearerToken sent _).keeps_bind fun token h _ => hperform _ h
  · exact hperform [] _

theorem keeps_request_plain {sent : HttpRequest} (ha : sent.authenticate = false) :
    Keeps (fun _ _ => True) (fun _ e => ∀ purpose made answer, e = .transfer purpose made answer →
      purpose = .pubSub ∧ made = plainTransfer sent) (request parse config sent) [] := by
  unfold request
  refine Prog.keeps_call_bind (fun _ => nofun) fun _ => ?_
  rw [ha, if_neg (by decide)]
  refine Prog.keeps_emit fun answer purpose made answer' heq => ?_
  cases heq
  exact ⟨rfl, rfl⟩

theorem performed_mem : ∀ {t : List Event} {u : List HttpEvent}, Performed parse config t u → ∀ {e}, e ∈ u →
    ∃ sent answer v o, .request sent answer ∈ t ∧ (request parse config sent).Runs v o ∧ e ∈ v
  | [], u, h, e, he => by
    rw [Performed] at h
    rw [h] at he
    cases he
  | e' :: t, u, h, e, he => by
    cases e' with
    | request sent answer =>
      obtain ⟨v, w, rfl, hr, hp⟩ := h
      rcases List.mem_append.1 he with hv | hw
      · exact ⟨sent, answer, v, _, List.mem_cons_self, hr, hv⟩
      · obtain ⟨sent', answer', v', o, hm, hr', hv'⟩ := performed_mem hp hw
        exact ⟨sent', answer', v', o, List.mem_cons_of_mem _ hm, hr', hv'⟩
    | _ =>
      obtain ⟨sent', answer', v', o, hm, hr', hv'⟩ := performed_mem (t := t) h he
      exact ⟨sent', answer', v', o, List.mem_cons_of_mem _ hm, hr', hv'⟩

end Transfers

/-! ## URLs -/

theorem nul_notMem_plainSegment {segment : Text} (h : PlainSegment segment) : '\x00' ∉ segment := by
  intro hm
  rcases h.2.2.2 _ hm with ha | ha | ha | ha <;> exact absurd ha (by decide)

theorem nul_mem_endpointBase {config : PubSubConfig} :
    '\x00' ∈ endpointBase config ↔ '\x00' ∈ config.emulatorHost := by
  unfold endpointBase
  split
  · rename_i he
    rw [List.isEmpty_iff.1 he]
    decide
  · rw [List.mem_append]
    refine ⟨fun hm => hm.resolve_left ?_, Or.inr⟩
    split <;> decide

theorem nul_notMem_cString (text : Text) : '\x00' ∉ cString text := by
  intro hm
  simpa using List.mem_takeWhile_imp hm

theorem nul_mem_confinedUrl {config : PubSubConfig} {url : Text} (h : ConfinedUrl config url) :
    '\x00' ∈ url ↔ '\x00' ∈ config.emulatorHost := by
  obtain ⟨collection, id, verb, hc, hv, hp, hid, rfl⟩ := h
  have hverb : '\x00' ∉ verb := by
    intro hm
    have hall : ∀ v ∈ verbs, '\x00' ∉ v := by decide
    exact hall verb hv hm
  have hcollection : '\x00' ∉ collection := by
    rcases hc with rfl | rfl <;> decide
  have hproject := nul_notMem_plainSegment hp
  have hresource := nul_notMem_plainSegment hid
  have hpath : '\x00' ∉ "/v1/projects/".toList := by decide
  have hslash : '\x00' ∉ "/".toList := by decide
  simp only [List.mem_append, nul_mem_endpointBase, hverb, hcollection, hproject, hresource, hpath, hslash, or_false]

theorem takeWhile_authority (host path : Text) :
    (host ++ '/' :: path).takeWhile isAuthorityChar = host.takeWhile isAuthorityChar := by
  rw [List.takeWhile_append]
  split
  · rename_i hl
    rw [List.takeWhile_cons_of_neg (by decide), List.append_nil]
    exact ((List.takeWhile_prefix _).eq_of_length hl).symm
  · rfl

theorem authority_endpointBase (config : PubSubConfig) (path : Text) :
    authority (endpointBase config ++ '/' :: path) = authority (endpointBase config) := by
  unfold endpointBase authority
  split
  · rfl
  · split <;> exact takeWhile_authority config.emulatorHost path

theorem authority_confinedUrl {config : PubSubConfig} {url : Text} (h : ConfinedUrl config url) :
    authority url = authority (endpointBase config) := by
  obtain ⟨collection, id, verb, -, -, -, -, rfl⟩ := h
  simp only [List.append_assoc]
  exact authority_endpointBase config _

/-! ## Exactly when the plugin is confined -/

section Confined

variable (parse : Text → Except Text Json) (login : Text → Bool) {config : PubSubConfig}

theorem performed_last {sent : HttpRequest} {result : HttpResult} {v : List HttpEvent}
    (hr : (request parse config sent).Runs v (.done result)) : ∀ {before : List Event},
    (∀ e ∈ before, ∀ sent answer, e ≠ .request sent answer) →
    Performed parse config (before ++ [.request sent (.ok result)]) v
  | [], _          => ⟨v, [], (List.append_nil v).symm, hr, rfl⟩
  | e :: before, h => by
    have ih := performed_last hr fun e he => h e (List.mem_cons_of_mem _ he)
    cases e with
    | request sent' answer => exact absurd rfl (h _ List.mem_cons_self sent' answer)
    | _ => exact ih

def requestsPublished (config : PubSubConfig) : Event :=
  .request (publishRequest config config.requestTopic [] (requestAttributes config [])) (.ok { status := 200 })

theorem callClient_oneWay (hw : config.oneWay = true) : (callClient config none 0 1).Runs
    ([.startedLoaded true, .newCorrelationId [], .acquireSession (.ok ())] ++ [requestsPublished config])
    (.done []) := by
  unfold callClient
  rw [if_neg (by decide), if_neg (by decide)]
  refine Prog.runs_ask.2 ⟨true, rfl, ?_⟩
  refine Prog.runs_ask.2 ⟨[], rfl, ?_⟩
  simp only [hw, if_true, Prog.bind]
  refine Prog.runs_ask.2 ⟨.ok (), rfl, ?_⟩
  refine Prog.runs_ask.2 ⟨.ok { status := 200 }, rfl, ?_⟩
  exact ⟨rfl, rfl⟩

theorem callClient_twoWay (hw : config.oneWay = false) : (callClient config none 0 1).Runs
    ([.startedLoaded true, .newCorrelationId [], .pending (.registered [] 0), .acquireSession (.ok ())] ++
      [requestsPublished config]) .cut := by
  unfold callClient
  rw [if_neg (by decide), if_neg (by decide)]
  refine Prog.runs_ask.2 ⟨true, rfl, ?_⟩
  refine Prog.runs_ask.2 ⟨[], rfl, ?_⟩
  simp only [hw, Bool.false_eq_true, if_false, Prog.bind]
  refine Prog.runs_ask.2 ⟨.ok 0, rfl, ?_⟩
  refine Prog.runs_ask.2 ⟨.ok (), rfl, ?_⟩
  refine Prog.runs_ask.2 ⟨.ok { status := 200 }, rfl, ?_⟩
  exact Prog.runs_ask_cut _ _

theorem start_pulls (parse : Text → Option Json) (hv : validateServerConfig config = .ok ()) :
    (start parse config true 1 1).Runs ([.stopRequested true, .stopRequested false] ++
      [.request (pullRequest config config.requestSubscription 1) (.ok { timedOut := true })]) .cut := by
  unfold start
  simp only [hv]
  refine Prog.runs_ask.2 ⟨true, rfl, ?_⟩
  refine Prog.runs_ask.2 ⟨false, rfl, ?_⟩
  refine Prog.runs_ask.2 ⟨.ok { timedOut := true }, rfl, ?_⟩
  exact ⟨rfl, rfl⟩

/-- A valid configuration issues some operation, whatever its run of `Request`. -/
theorem exists_issued (hv : validateClientConfig config = .ok () ∨ validateServerConfig config = .ok ()) :
    ∃ t sent result, Issues parse config t ∧ .request sent (.ok result) ∈ t ∧
      ∀ v, (request parse config sent).Runs v (.done result) → Performed parse config t v := by
  have hmem : ∀ (before : List Event) e, e ∈ before ++ [e] := fun before e => by simp
  rcases hv with hv | hv
  · cases hw : config.oneWay with
    | true =>
      refine ⟨_, _, _, Or.inl ⟨hv, Or.inl ⟨none, 0, 1, _, callClient_oneWay hw⟩⟩, hmem _ _, fun v hr => ?_⟩
      exact performed_last parse hr (by simp)
    | false =>
      refine ⟨_, _, _, Or.inl ⟨hv, Or.inl ⟨none, 0, 1, _, callClient_twoWay hw⟩⟩, hmem _ _, fun v hr => ?_⟩
      exact performed_last parse hr (by simp)
  · refine ⟨_, _, _, Or.inr ⟨hv, true, 1, 1, _, start_pulls _ hv⟩, hmem _ _, fun v hr => ?_⟩
    exact performed_last parse hr (by simp)

theorem request_plain {sent : HttpRequest} (ha : sent.authenticate = false) (result : HttpResult) :
    (request parse config sent).Runs [.dumped (.ok ()), .transfer .pubSub (plainTransfer sent) result]
      (.done result) := by
  unfold request
  refine Prog.runs_ask.2 ⟨.ok (), rfl, ?_⟩
  simp only [ha, Bool.false_eq_true, if_false, Prog.bind]
  refine Prog.runs_ask.2 ⟨result, rfl, ?_⟩
  exact ⟨rfl, rfl⟩

theorem transfersTo_of_request {sent : HttpRequest} {v : List HttpEvent} {o : Outcome Error HttpResult}
    (hr : (request parse config sent).Runs v o) {e : HttpEvent} (he : e ∈ v) : TransfersTo sent e := by
  have hj := (keeps_request sent).admits_of_keeps hr
  obtain ⟨before, after, rfl⟩ := List.append_of_mem he
  exact (Prog.admits_iff _ _ _).1 hj before e after rfl

theorem plain_of_request {sent : HttpRequest} (hop : Operation config sent) (hne : config.emulatorHost ≠ [])
    {v : List HttpEvent} {o : Outcome Error HttpResult} (hr : (request parse config sent).Runs v o) {e : HttpEvent}
    (he : e ∈ v) : ∀ purpose made answer, e = .transfer purpose made answer →
      purpose = .pubSub ∧ made = plainTransfer sent := by
  have ha : sent.authenticate = false := by rw [hop.1, List.isEmpty_eq_false_iff]; exact hne
  have hj := (keeps_request_plain ha).admits_of_keeps hr
  obtain ⟨before, after, rfl⟩ := List.append_of_mem he
  exact (Prog.admits_iff _ _ _).1 hj before e after rfl

theorem cString_of_confinedUrl {url : Text} (hu : ConfinedUrl config url) (hnul : '\x00' ∉ config.emulatorHost) :
    cString url = url :=
  (cString_eq_self url).2 fun hm => hnul ((nul_mem_confinedUrl hu).1 hm)

theorem not_carriesAuthorization {sent : HttpRequest} (hu : ConfinedUrl config sent.url)
    (hnul : '\x00' ∉ config.emulatorHost) (hlogin : login (authority (endpointBase config)) = false) :
    ¬CarriesAuthorization login (plainTransfer sent) := by
  rintro (⟨header, hm, hh⟩ | hl)
  · have hheaders : (plainTransfer sent).headers = ["Content-Type: application/json".toList] := rfl
    rw [hheaders, List.mem_singleton] at hm
    rw [hm] at hh
    exact absurd hh (by decide)
  · have hurl : (plainTransfer sent).url = sent.url := cString_of_confinedUrl hu hnul
    rw [hurl, authority_confinedUrl hu, hlogin] at hl
    cases hl

theorem plainHost_of_confined (hv : validateClientConfig config = .ok () ∨ validateServerConfig config = .ok ())
    (hall : ∀ t, Issues parse config t → ConfinedTrace parse login config t) : PlainHost login config := by
  by_cases hne : config.emulatorHost = []
  · exact ⟨by rw [hne]; exact List.not_mem_nil, fun h => absurd hne h⟩
  obtain ⟨t, sent, result, hi, hm, hp⟩ := exists_issued parse hv
  obtain ⟨ha, hu⟩ := operations_of_issues hi sent _ hm
  have hplain : sent.authenticate = false := by rw [ha, List.isEmpty_eq_false_iff]; exact hne
  have hperformed := hp _ (request_plain parse hplain result)
  have hc := (hall t hi).url _ hperformed (plainTransfer sent) result (by simp)
  refine ⟨fun hnul => nul_notMem_cString sent.url ((nul_mem_confinedUrl hc).2 hnul), fun _ => ?_⟩
  have hn := (hall t hi).noAuthorization hne _ hperformed .pubSub (plainTransfer sent) result (by simp)
  rw [← authority_confinedUrl hc]
  exact Bool.eq_false_iff.2 fun hlogin => hn (Or.inr hlogin)

theorem confined_of_plainHost (hh : PlainHost login config) {t : List Event} (ht : Issues parse config t) :
    ConfinedTrace parse login config t := by
  obtain ⟨hnul, hlogin⟩ := hh
  have hops := operations_of_issues ht
  refine ⟨fun u hu made answer hm => ?_, fun hne u hu made answer hm => ?_,
    fun hne u hu purpose made answer hm hc => ?_⟩
  · obtain ⟨sent, answer', v, o, hsent, hr, hv⟩ := performed_mem hu hm
    have hop := (hops sent answer' hsent).2
    rw [(transfersTo_of_request parse hr hv) made answer rfl, cString_of_confinedUrl hop hnul]
    exact hop
  · obtain ⟨sent, answer', v, o, hsent, hr, hv⟩ := performed_mem hu hm
    have hop := hops sent answer' hsent
    cases (plain_of_request parse hop hne hr hv _ _ _ rfl).1
  · obtain ⟨sent, answer', v, o, hsent, hr, hv⟩ := performed_mem hu hm
    have hop := hops sent answer' hsent
    rw [(plain_of_request parse hop hne hr hv _ _ _ rfl).2] at hc
    exact not_carriesAuthorization login hop.2 hnul (hlogin hne) hc

/-- **Confined exactly on a plain host**: with a configuration its role accepts, every transfer of every run goes where the
configuration says and an emulator gets no credentials, if and only if the emulator's host has no NUL and no login. -/
theorem confined_iff (hv : validateClientConfig config = .ok () ∨ validateServerConfig config = .ok ()) :
    (∀ t, Issues parse config t → ConfinedTrace parse login config t) ↔ PlainHost login config :=
  ⟨plainHost_of_confined parse login hv, fun hh _ ht => confined_of_plainHost parse login hh ht⟩

end Confined

/-- A configuration that both roles accept, on an emulator at `host`. -/
def emulated (host : Text) : PubSubConfig :=
  { projectId := ['p'], requestTopic := "requests".toList, requestSubscription := "requests-sub".toList,
    replyTopic := "replies".toList, replySubscription := "replies-sub".toList, emulatorHost := host }

def loginBeforeAt (host : Text) : Bool := host.contains '@'

theorem confined_iff_localhost : PlainHost loginBeforeAt (emulated "localhost:8085".toList) ∧
    ∀ t, Issues (fun _ => .error []) (emulated "localhost:8085".toList) t →
      ConfinedTrace (fun _ => .error []) loginBeforeAt (emulated "localhost:8085".toList) t := by
  have hh : PlainHost loginBeforeAt (emulated "localhost:8085".toList) := ⟨by decide, fun _ => by decide⟩
  exact ⟨hh, (confined_iff (fun _ => .error []) loginBeforeAt (Or.inl rfl)).2 hh⟩

/-- A login in the host is accepted, and sent. -/
theorem not_confined_login : ¬∀ t, Issues (fun _ => .error []) (emulated "user:secret@localhost".toList) t →
    ConfinedTrace (fun _ => .error []) loginBeforeAt (emulated "user:secret@localhost".toList) t := by
  intro hall
  have hh := plainHost_of_confined (fun _ => .error []) loginBeforeAt (Or.inl rfl) hall
  exact absurd (hh.2 (by decide)) (by decide)

end PubSub
end Graftcode
