import Mathlib.Data.List.Infix
import Graftcode.Json
import Graftcode.PendingReplies
import Graftcode.Prog
import Graftcode.PubSubBase64
import Graftcode.PubSubConfig
/-!
# PubSubSession — the HTTP session and what the plugin does through it

`PubSubSession` of `PubSubUtil.cpp`, as programs over the events of the plugin.  An event of `Request` holds what was
asked and what it came to: a result, or an exception (from `BearerToken` or `body.dump()`, before anything is sent).
`parse` is `nlohmann::json::parse` without exceptions; `none` is a discarded value.
-/
namespace Graftcode
namespace PubSub

open Prog (emit ofExcept attempt iterate forEach)

/-- `PubSubHttpError`, or any other exception. -/
inductive Error where
  | http (status : Int) (what : Text)
  | exn (e : Exn)

/-- Caught by `catch (const std::exception&)`. -/
def Error.isStd : Error → Bool
  | http _ _       => true
  | exn (.std _)   => true
  | exn .unknown   => false

/-- `error.what()` read into a `std::string`. -/
def Error.what : Error → Text
  | http _ what     => cString what
  | exn (.std what) => cString what
  | exn .unknown    => []

structure HttpResult where
  status : Int := 0
  timedOut : Bool := false
  body : Text := []
  error : Text := []

structure HttpRequest where
  method : Text
  url : Text
  body : Json
  timeoutMs : Nat
  authenticate : Bool

structure PulledMessage where
  ackId : Text := []
  data : Bytes := []
  attributes : List (Text × Text) := []

/-- What a thread of the plugin asks of the outside, with the answer it got. -/
inductive Event where
  | request (sent : HttpRequest) (answer : Except Error HttpResult)
  | newSession (result : Except Error Unit)
  -- the server
  | stopRequested (stop : Bool)
  | processMessage (payload : Bytes) (writes : List (Option Bytes)) (result : Except Exn Bool)
  -- the client
  | startedLoaded (started : Bool)
  | startedStored
  | acquireSession (result : Except Error Unit)
  | newCorrelationId (id : Text)
  | beforePublishDeadline (before : Bool)
  | stoppingLoaded (stopping : Bool)
  | waitForPending (found : Bool)
  | pending (event : PendingReplies.Event)

def correlationIdAttribute : Text := "correlationId".toList

def replyToAttribute : Text := "replyTo".toList

/-- The decoded message data limit. -/
def maxPayloadBytes : Nat := 10 * 1024 * 1024

def kRpcTimeoutMs : Nat := 15000

def kPullTimeoutMs : Nat := 2000

/-- `Attribute(attributes, name)`: empty when it is not there. -/
def attributeOf (attributes : List (Text × Text)) (name : Text) : Text := (attributes.lookup name).getD []

def truncate (value : Text) : Text := if value.length ≤ 512 then value else value.take 512 ++ "...".toList

def resourceUrl (config : PubSubConfig) (collection id : Text) : Text :=
  endpointBase config ++ "/v1/projects/".toList ++ config.projectId ++ "/".toList ++ collection ++ "/".toList ++ id

def publishUrl (config : PubSubConfig) (topic : Text) : Text :=
  resourceUrl config "topics".toList topic ++ ":publish".toList

def pullUrl (config : PubSubConfig) (subscription : Text) : Text :=
  resourceUrl config "subscriptions".toList subscription ++ ":pull".toList

/-! ## Requests and their answers -/

def throwIfHttpFailed (operation : Text) (result : HttpResult) : Except Error Unit :=
  if 200 ≤ result.status ∧ result.status < 300 then .ok ()
  else if result.timedOut then .error (.http 0 ("Pub/Sub ".toList ++ operation ++ " timed out".toList))
  else if result.status = 0 then
    .error (.http 0 ("Pub/Sub ".toList ++ operation ++ " failed: ".toList ++
      (if result.error.isEmpty then "connection failed".toList else result.error)))
  else
    .error (.http result.status ("Pub/Sub ".toList ++ operation ++ " failed: HTTP ".toList ++
      (toString result.status).toList ++ " ".toList ++ truncate result.body))

/-- An answer that `ThrowIfHttpFailed` lets pass. -/
def Succeeded (answer : Except Error HttpResult) : Prop :=
  ∃ result, answer = .ok result ∧ 200 ≤ result.status ∧ result.status < 300

/-- What a request with no result of its own comes to. -/
def checked (operation : Text) (answer : Except Error HttpResult) : Except Error Unit :=
  answer.bind (throwIfHttpFailed operation)

theorem checked_ok {operation : Text} {answer : Except Error HttpResult} :
    checked operation answer = .ok () ↔ Succeeded answer := by
  cases answer with
  | error e => simp [checked, Succeeded, Except.bind]
  | ok result =>
    simp only [checked, Except.bind, Succeeded, Except.ok.injEq, exists_eq_left', throwIfHttpFailed]
    constructor
    · intro h
      by_contra hs
      rw [if_neg hs] at h
      split at h
      · cases h
      split at h <;> cases h
    · intro hs
      rw [if_pos hs]

/-- `Request` with the headers every call to the service has. -/
def serviceRequest (config : PubSubConfig) (method url : Text) (body : Json) (timeoutMs : Nat) : HttpRequest :=
  { method, url, body, timeoutMs, authenticate := config.emulatorHost.isEmpty }

def topicName (config : PubSubConfig) (topic : Text) : Text :=
  "projects/".toList ++ config.projectId ++ "/topics/".toList ++ topic

def topicRequest (config : PubSubConfig) (topic : Text) : HttpRequest :=
  serviceRequest config "PUT".toList (resourceUrl config "topics".toList topic)
    (.object [("name".toList, .string (topicName config topic))]) kRpcTimeoutMs

def subscriptionRequest (config : PubSubConfig) (subscription topic : Text) : HttpRequest :=
  serviceRequest config "PUT".toList (resourceUrl config "subscriptions".toList subscription)
    (.object [("name".toList, .string ("projects/".toList ++ config.projectId ++ "/subscriptions/".toList ++
        subscription)),
      ("topic".toList, .string (topicName config topic)),
      ("ackDeadlineSeconds".toList, .number config.ackDeadlineSeconds)]) kRpcTimeoutMs

def publishRequest (config : PubSubConfig) (topic : Text) (data : Bytes) (attributes : List (Text × Text)) :
    HttpRequest :=
  serviceRequest config "POST".toList (publishUrl config topic)
    (.object [("messages".toList, .array [.object [("data".toList, .string (base64Encode data)),
      ("attributes".toList, .ofStrings attributes)]])]) kRpcTimeoutMs

def pullRequest (config : PubSubConfig) (subscription : Text) (maxMessages : Nat) : HttpRequest :=
  serviceRequest config "POST".toList (pullUrl config subscription)
    (.object [("maxMessages".toList, .number maxMessages), ("returnImmediately".toList, .bool true)]) kPullTimeoutMs

def acknowledgeRequest (config : PubSubConfig) (subscription : Text) (ackIds : List Text) : HttpRequest :=
  serviceRequest config "POST".toList
    (resourceUrl config "subscriptions".toList subscription ++ ":acknowledge".toList)
    (.object [("ackIds".toList, .array (ackIds.map .string))]) kRpcTimeoutMs

/-- The answer to a `PUT`: what already exists is not an error. -/
def ensured (operation : Text) (answer : Except Error HttpResult) : Except Error Unit :=
  answer.bind fun result =>
    if result.status = 409 ∨ (400 ≤ result.status ∧ "ALREADY_EXISTS".toList <:+: result.body) then .ok ()
    else throwIfHttpFailed operation result

def ensureTopic (config : PubSubConfig) (topic : Text) : Prog Error Event Unit :=
  emit (Event.request (topicRequest config topic)) >>= fun answer => ofExcept (ensured "CreateTopic".toList answer)

def ensureSubscription (config : PubSubConfig) (subscription topic : Text) : Prog Error Event Unit :=
  emit (Event.request (subscriptionRequest config subscription topic)) >>= fun answer =>
    ofExcept (ensured "CreateSubscription".toList answer)

def tooLarge : Error := .exn (.std "Pub/Sub plugin: payload exceeds the 10 MiB Pub/Sub limit".toList)

def publish (config : PubSubConfig) (topic : Text) (data : Bytes) (attributes : List (Text × Text)) :
    Prog Error Event Unit :=
  if maxPayloadBytes < data.length then Prog.throw tooLarge
  else
    emit (Event.request (publishRequest config topic data attributes)) >>= fun answer =>
      ofExcept (checked ("Publish ".toList ++ topic) answer)

def acknowledge (config : PubSubConfig) (subscription : Text) (ackIds : List Text) : Prog Error Event Unit :=
  if ackIds.isEmpty then pure ()
  else
    emit (Event.request (acknowledgeRequest config subscription ackIds)) >>= fun answer =>
      ofExcept (checked ("Acknowledge ".toList ++ subscription) answer)

/-! ## Pull -/

/-- One element of `receivedMessages`; data that is not Base64 is an exception. -/
def pulledMessage (item : Json) : Except Error PulledMessage :=
  let ackId := (item.findString? "ackId".toList).getD []
  match item.findObject? "message".toList with
  | none         => .ok { ackId }
  | some payload =>
    let attributes := match payload.findObject? "attributes".toList with
      | some members => members.strings
      | none         => []
    match payload.findString? "data".toList with
    | none      => .ok { ackId, attributes }
    | some text =>
      match base64Decode text with
      | .ok data    => .ok { ackId, data, attributes }
      | .error what => .error (.exn (.std what))

/-- The loop over `receivedMessages`; elements that are no objects are passed over. -/
def receivedMessages (parsed : Option Json) : Except Error (List PulledMessage) :=
  match parsed.bind (Json.findArray? "receivedMessages".toList) with
  | none          => .ok []
  | some received => (received.filter Json.isObject).mapM pulledMessage

/-- What a pull comes to. -/
def pulled (parse : Text → Option Json) (subscription : Text) (answer : Except Error HttpResult) :
    Except Error (List PulledMessage) :=
  answer.bind fun result =>
    if result.timedOut then .ok []
    else (throwIfHttpFailed ("Pull ".toList ++ subscription) result).bind fun _ => receivedMessages (parse result.body)

def pull (parse : Text → Option Json) (config : PubSubConfig) (subscription : Text) (maxMessages : Nat) :
    Prog Error Event (List PulledMessage) :=
  emit (Event.request (pullRequest config subscription maxMessages)) >>= fun answer =>
    ofExcept (pulled parse subscription answer)

/-! ### What a batch holds -/

theorem mem_of_mapM_ok {ε α β : Type} {f : α → Except ε β} : ∀ {xs : List α} {ys : List β}, xs.mapM f = .ok ys →
    ∀ y ∈ ys, ∃ x ∈ xs, f x = .ok y
  | [], _, h, _, hy => by cases h; cases hy
  | x :: xs, ys, h, y, hy => by
    rw [List.mapM_cons] at h
    cases hx : f x with
    | error e => rw [hx] at h; cases h
    | ok z =>
      rw [hx] at h
      cases hxs : xs.mapM f with
      | error e => rw [hxs] at h; cases h
      | ok zs =>
        rw [hxs] at h
        cases h
        rcases List.mem_cons.1 hy with rfl | hy
        · exact ⟨x, List.mem_cons_self, hx⟩
        · obtain ⟨x', hx', he⟩ := mem_of_mapM_ok hxs y hy
          exact ⟨x', List.mem_cons_of_mem _ hx', he⟩

theorem mapM_ok_iff {ε α β : Type} {f : α → Except ε β} : ∀ {xs : List α},
    (∃ ys, xs.mapM f = .ok ys) ↔ ∀ x ∈ xs, ∃ y, f x = .ok y
  | []      => by simp only [List.not_mem_nil, false_implies, implies_true, iff_true]; exact ⟨[], rfl⟩
  | x :: xs => by
    rw [List.forall_mem_cons, ← @mapM_ok_iff _ _ _ f xs, List.mapM_cons]
    constructor
    · rintro ⟨ys, h⟩
      cases hx : f x with
      | error e => rw [hx] at h; cases h
      | ok y =>
        cases hxs : xs.mapM f with
        | error e => rw [hx, hxs] at h; cases h
        | ok ys => exact ⟨⟨y, rfl⟩, ys, rfl⟩
    · rintro ⟨⟨y, hx⟩, ys, hxs⟩
      exact ⟨y :: ys, by rw [hx, hxs]; rfl⟩

theorem mem_mapM {ε α β : Type} {f : α → Except ε β} : ∀ {xs : List α} {ys : List β}, xs.mapM f = .ok ys →
    ∀ {x y}, x ∈ xs → f x = .ok y → y ∈ ys
  | z :: xs, ys, h, x, y, hm, hy => by
    rw [List.mapM_cons] at h
    cases hz : f z with
    | error e => rw [hz] at h; cases h
    | ok w =>
      cases hxs : xs.mapM f with
      | error e => rw [hz, hxs] at h; cases h
      | ok ws =>
        rw [hz, hxs] at h
        cases h
        rcases List.mem_cons.1 hm with rfl | hm
        · rw [hz] at hy
          cases hy
          exact List.mem_cons_self
        · exact List.mem_cons_of_mem _ (mem_mapM hxs hm hy)

theorem mapM_error {ε α β : Type} {f : α → Except ε β} {e : ε} : ∀ {xs : List α}, xs.mapM f = .error e →
    ∃ x ∈ xs, f x = .error e
  | [], h      => by cases h
  | x :: xs, h => by
    rw [List.mapM_cons] at h
    cases hx : f x with
    | error e' => rw [hx] at h; cases h; exact ⟨x, List.mem_cons_self, hx⟩
    | ok y =>
      cases hxs : xs.mapM f with
      | error e' =>
        rw [hx, hxs] at h
        cases h
        obtain ⟨x', hm, he⟩ := mapM_error hxs
        exact ⟨x', List.mem_cons_of_mem _ hm, he⟩
      | ok ys => rw [hx, hxs] at h; cases h

theorem pulledMessage_message {item payload : Json} (hp : item.findObject? "message".toList = some payload) :
    pulledMessage item =
      ((payload.findString? "data".toList).elim (.ok []) fun text =>
        (base64Decode text).mapError fun what => Error.exn (.std what)).map fun data =>
          { ackId := (item.findString? "ackId".toList).getD [], data,
            attributes := (payload.findObject? "attributes".toList).elim [] Json.strings } := by
  unfold pulledMessage
  rw [hp]
  dsimp only
  cases payload.findObject? "attributes".toList with
  | none =>
    cases payload.findString? "data".toList with
    | none => rfl
    | some text => cases hd : base64Decode text <;> simp [hd, Except.mapError, Except.map]
  | some members =>
    cases payload.findString? "data".toList with
    | none => rfl
    | some text => cases hd : base64Decode text <;> simp [hd, Except.mapError, Except.map]

theorem pulled_mem {parse : Text → Option Json} {subscription : Text} {answer : Except Error HttpResult}
    {batch : List PulledMessage} (hp : pulled parse subscription answer = .ok batch) {message : PulledMessage}
    (hm : message ∈ batch) : ∃ result items item, answer = .ok result ∧ 200 ≤ result.status ∧ result.status < 300 ∧
      (parse result.body).bind (Json.findArray? "receivedMessages".toList) = some items ∧ item ∈ items ∧
      pulledMessage item = .ok message := by
  cases answer with
  | error e => cases hp
  | ok result =>
    simp only [pulled, Except.bind] at hp
    split at hp
    · cases hp; cases hm
    cases hs : throwIfHttpFailed ("Pull ".toList ++ subscription) result with
    | error e => rw [hs] at hp; cases hp
    | ok u =>
      rw [hs] at hp
      have hs' : checked ("Pull ".toList ++ subscription) (.ok result) = .ok () := hs
      obtain ⟨result', heq, hlo, hhi⟩ := checked_ok.1 hs'
      cases heq
      simp only [receivedMessages] at hp
      split at hp
      · cases hp; cases hm
      · rename_i items hi
        obtain ⟨item, hitem, he⟩ := mem_of_mapM_ok hp message hm
        exact ⟨result, items, item, rfl, hlo, hhi, hi, List.mem_of_mem_filter hitem, he⟩

/-! ## The session under the logic -/

section Logic

variable {R G : List Event → Event → Prop}

@[simp] theorem safe_publish (config : PubSubConfig) (topic : Text) (data : Bytes) (attributes : List (Text × Text))
    (Q : List Event → Except Error Unit → Prop) (h : List Event) :
    (publish config topic data attributes).Safe R G Q h =
      if maxPayloadBytes < data.length then Q h (.error tooLarge)
      else ∀ answer, R h (.request (publishRequest config topic data attributes) answer) →
        G h (.request (publishRequest config topic data attributes) answer) ∧
          Q (.request (publishRequest config topic data attributes) answer :: h)
            (checked ("Publish ".toList ++ topic) answer) := by
  unfold publish
  split <;> simp

@[simp] theorem safe_acknowledge (config : PubSubConfig) (subscription : Text) (ackId : Text) (ackIds : List Text)
    (Q : List Event → Except Error Unit → Prop) (h : List Event) :
    (acknowledge config subscription (ackId :: ackIds)).Safe R G Q h =
      ∀ answer, R h (.request (acknowledgeRequest config subscription (ackId :: ackIds)) answer) →
        G h (.request (acknowledgeRequest config subscription (ackId :: ackIds)) answer) ∧
          Q (.request (acknowledgeRequest config subscription (ackId :: ackIds)) answer :: h)
            (checked ("Acknowledge ".toList ++ subscription) answer) := by
  simp [acknowledge]

@[simp] theorem safe_pull (parse : Text → Option Json) (config : PubSubConfig) (subscription : Text)
    (maxMessages : Nat) (Q : List Event → Except Error (List PulledMessage) → Prop) (h : List Event) :
    (pull parse config subscription maxMessages).Safe R G Q h =
      ∀ answer, R h (.request (pullRequest config subscription maxMessages) answer) →
        G h (.request (pullRequest config subscription maxMessages) answer) ∧
          Q (.request (pullRequest config subscription maxMessages) answer :: h) (pulled parse subscription answer) := by
  simp [pull]

@[simp] theorem safe_ensureTopic (config : PubSubConfig) (topic : Text) (Q : List Event → Except Error Unit → Prop)
    (h : List Event) :
    (ensureTopic config topic).Safe R G Q h =
      ∀ answer, R h (.request (topicRequest config topic) answer) →
        G h (.request (topicRequest config topic) answer) ∧
          Q (.request (topicRequest config topic) answer :: h) (ensured "CreateTopic".toList answer) := by
  simp [ensureTopic]

@[simp] theorem safe_ensureSubscription (config : PubSubConfig) (subscription topic : Text)
    (Q : List Event → Except Error Unit → Prop) (h : List Event) :
    (ensureSubscription config subscription topic).Safe R G Q h =
      ∀ answer, R h (.request (subscriptionRequest config subscription topic) answer) →
        G h (.request (subscriptionRequest config subscription topic) answer) ∧
          Q (.request (subscriptionRequest config subscription topic) answer :: h)
            (ensured "CreateSubscription".toList answer) := by
  simp [ensureSubscription]

end Logic

/-! ## Requests are told apart by the keys of their bodies -/

def HttpRequest.keys (sent : HttpRequest) : List Text :=
  match sent.body with
  | .object members => members.map Prod.fst
  | _               => []

section Keys

variable (config : PubSubConfig) (topic subscription : Text)

@[simp] theorem keys_topicRequest : (topicRequest config topic).keys = ["name".toList] := rfl

@[simp] theorem keys_subscriptionRequest : (subscriptionRequest config subscription topic).keys =
    ["name".toList, "topic".toList, "ackDeadlineSeconds".toList] := rfl

@[simp] theorem keys_publishRequest (data : Bytes) (attributes : List (Text × Text)) :
    (publishRequest config topic data attributes).keys = ["messages".toList] := rfl

@[simp] theorem keys_pullRequest (maxMessages : Nat) :
    (pullRequest config subscription maxMessages).keys = ["maxMessages".toList, "returnImmediately".toList] := rfl

@[simp] theorem keys_acknowledgeRequest (ackIds : List Text) :
    (acknowledgeRequest config subscription ackIds).keys = ["ackIds".toList] := rfl

end Keys

theorem publishRequest_inj {c c' : PubSubConfig} {topic topic' : Text} {data data' : Bytes}
    {attributes attributes' : List (Text × Text)}
    (h : publishRequest c topic data attributes = publishRequest c' topic' data' attributes') :
    publishUrl c topic = publishUrl c' topic' ∧ data = data' ∧ attributes = attributes' := by
  refine ⟨congrArg HttpRequest.url h, ?_⟩
  have hb := congrArg HttpRequest.body h
  simp only [publishRequest, serviceRequest, Json.object.injEq, List.cons.injEq, Prod.mk.injEq, Json.array.injEq,
    Json.string.injEq, true_and, and_true] at hb
  refine ⟨?_, ?_⟩
  · have := congrArg base64Decode hb.1
    rw [base64Decode_encode, base64Decode_encode] at this
    exact Except.ok.inj this
  · rw [← Json.strings_ofStrings attributes, ← Json.strings_ofStrings attributes', hb.2]

end PubSub
end Graftcode
