import Graftcode.PubSubSession
/-!
# ResponseCap — what `Publish` accepts against what `Pull` can receive

`WriteToString` refuses the chunk that would take a response over `kMaxResponseBytes`, and the transfer is lost with it.  A
payload is bounded where it is published, but a response carries up to `maxMessages` of them, four characters for every
three bytes: one message always fits, two of the largest never do.
-/
namespace Graftcode
namespace PubSub

def kMaxResponseBytes : Nat := 16 * 1024 * 1024

/-- `WriteToString`; `none` is the return of 0, which aborts the transfer. -/
def writeToString (output contents : Text) : Option Text :=
  if kMaxResponseBytes < output.length + contents.length then none else some (output ++ contents)

/-- The body after the chunks of a transfer, and whether it was aborted. -/
def writeChunks : Text → List Text → Text × Bool
  | output, []               => (output, false)
  | output, contents :: rest =>
    match writeToString output contents with
    | none        => (output, true)
    | some output => writeChunks output rest

/-- The result of `Request` on an answer of the service; `writeError` is what libcurl says of an aborted transfer. -/
def performed (status : Int) (writeError : Text) (chunks : List Text) : HttpResult :=
  match writeChunks [] chunks with
  | (body, false) => { status, body }
  | (body, true)  => { body, error := writeError }

/-! ## The body of a pull response -/

/-- A message as a response carries it: the text of its ack id and of the members of its attributes, and of further members
of the message, each behind its comma. -/
structure ReceivedText where
  ackId : Text
  data : Bytes
  attributes : Text
  members : Text

/-- What a message carries besides its payload. -/
def ReceivedText.envelope (received : ReceivedText) : Nat :=
  received.ackId.length + received.attributes.length + received.members.length

def beforeAckId : Text := "\x7b\"ackId\":\"".toList

def beforeData : Text := "\",\"message\":\x7b\"data\":\"".toList

def beforeAttributes : Text := "\",\"attributes\":\x7b".toList

def receivedText (received : ReceivedText) : Text :=
  beforeAckId ++ received.ackId ++ beforeData ++ base64Encode received.data ++ beforeAttributes ++ received.attributes ++
    ['\x7d'] ++ received.members ++ ['\x7d', '\x7d']

def responseBody (batch : List ReceivedText) : Text :=
  "\x7b\"receivedMessages\":[".toList ++ [','].intercalate (batch.map receivedText) ++ "]\x7d".toList

/-- `Pull` gets the whole body, however the transfer is cut into chunks. -/
def Receivable (parse : Text → Option Json) (subscription body : Text) : Prop :=
  body.length ≤ kMaxResponseBytes ∧ ∀ status writeError chunks, 200 ≤ status → status < 300 → chunks.flatten = body →
    pulled parse subscription (.ok (performed status writeError chunks)) = receivedMessages (parse body)

/-! ## Lengths -/

theorem length_base64Encode : ∀ data : Bytes, (base64Encode data).length = 4 * ((data.length + 2) / 3)
  | []                  => rfl
  | [_]                 => by simp [base64Encode]
  | [_, _]              => by simp [base64Encode]
  | _ :: _ :: _ :: rest => by
    simp only [base64Encode, List.length_cons, length_base64Encode rest]
    omega

theorem length_receivedText (received : ReceivedText) :
    (receivedText received).length = received.envelope + 4 * ((received.data.length + 2) / 3) + 50 := by
  have hack : beforeAckId.length = 10 := rfl
  have hdata : beforeData.length = 21 := rfl
  have hattributes : beforeAttributes.length = 16 := rfl
  simp only [receivedText, List.length_append, length_base64Encode, hack, hdata, hattributes, List.length_cons,
    List.length_nil, ReceivedText.envelope]
  omega

theorem length_responseBody_single (received : ReceivedText) :
    (responseBody [received]).length = (receivedText received).length + 23 := by
  have hopening : "\x7b\"receivedMessages\":[".toList.length = 21 := rfl
  have hclosing : "]\x7d".toList.length = 2 := rfl
  unfold responseBody
  rw [List.map_cons, List.map_nil, List.intercalate_singleton, List.length_append, List.length_append, hopening,
    hclosing]
  generalize (receivedText received).length = n
  omega

theorem length_responseBody_pair (received received' : ReceivedText) :
    (receivedText received).length + (receivedText received').length ≤ (responseBody [received, received']).length := by
  unfold responseBody
  rw [List.map_cons, List.map_cons, List.map_nil, List.intercalate_cons_cons, List.intercalate_singleton]
  simp only [List.length_append]
  generalize (receivedText received).length = n
  generalize (receivedText received').length = n'
  omega

/-! ## The transfer -/

theorem writeChunks_fits : ∀ (chunks : List Text) (output : Text),
    output.length + chunks.flatten.length ≤ kMaxResponseBytes →
    writeChunks output chunks = (output ++ chunks.flatten, false)
  | [], output, _                => by simp [writeChunks]
  | contents :: rest, output, hl => by
    rw [List.flatten_cons, List.length_append] at hl
    have hfits : ¬kMaxResponseBytes < output.length + contents.length := by omega
    simp only [writeChunks, writeToString, if_neg hfits]
    rw [writeChunks_fits rest, List.flatten_cons, List.append_assoc]
    rw [List.length_append]
    omega

theorem writeChunks_aborted : ∀ (chunks : List Text) (output : Text), output.length ≤ kMaxResponseBytes →
    kMaxResponseBytes < output.length + chunks.flatten.length → (writeChunks output chunks).2 = true
  | [], output, ho, hl               => absurd ho (by simpa using hl)
  | contents :: rest, output, ho, hl => by
    rw [List.flatten_cons, List.length_append] at hl
    by_cases hc : kMaxResponseBytes < output.length + contents.length
    · simp only [writeChunks, writeToString, if_pos hc]
    · simp only [writeChunks, writeToString, if_neg hc]
      have hlen : (output ++ contents).length = output.length + contents.length := List.length_append
      exact writeChunks_aborted rest (output ++ contents) (by omega) (by omega)

/-- An aborted transfer has no status, so `Pull` throws. -/
theorem pulled_aborted (parse : Text → Option Json) (subscription : Text) (status : Int) (writeError : Text)
    {chunks : List Text} (hl : kMaxResponseBytes < chunks.flatten.length) :
    ∃ what, pulled parse subscription (.ok (performed status writeError chunks)) = .error (.http 0 what) := by
  have ha := writeChunks_aborted chunks [] (Nat.zero_le _) (by simpa using hl)
  unfold performed
  split
  · rename_i body hw
    rw [hw] at ha
    cases ha
  · exact ⟨_, rfl⟩

/-- **A response can be received exactly when it is no longer than the limit.** -/
theorem receivable_iff (parse : Text → Option Json) (subscription body : Text) :
    Receivable parse subscription body ↔ body.length ≤ kMaxResponseBytes := by
  refine ⟨And.left, fun hl => ⟨hl, fun status writeError chunks hlo hhi hb => ?_⟩⟩
  have hw := writeChunks_fits chunks [] (by rw [hb]; simpa using hl)
  rw [List.nil_append, hb] at hw
  simp only [performed, hw, pulled, Except.bind, throwIfHttpFailed, if_pos (And.intro hlo hhi)]
  rfl

/-! ## Which configurations can consume what was published -/

def PublishAccepts (data : Bytes) : Prop := data.length ≤ maxPayloadBytes

theorem publish_refuses (config : PubSubConfig) (topic : Text) {data : Bytes} (attributes : List (Text × Text))
    (h : ¬PublishAccepts data) : publish config topic data attributes = Prog.throw tooLarge :=
  if_pos (Nat.lt_of_not_le h)

def ofSize (size : Nat) : ReceivedText := ⟨[], List.replicate size 0, [], []⟩

theorem length_ofSize (size : Nat) : (receivedText (ofSize size)).length = 4 * ((size + 2) / 3) + 50 := by
  rw [length_receivedText]
  simp [ofSize, ReceivedText.envelope]

theorem maxMessages_admitted {config : PubSubConfig} (hv : validateClientConfig config = .ok ()) :
    1 ≤ config.maxMessages ∧ config.maxMessages ≤ 100 := by
  have hc : validateCommon config "client".toList = .ok () := by
    unfold validateClientConfig at hv
    cases hc : validateCommon config "client".toList with
    | ok u => rfl
    | error e => simp only [hc, bind, Except.bind] at hv; cases hv
  unfold validateCommon at hc
  by_contra hm
  have hm : config.maxMessages < 1 ∨ 100 < config.maxMessages := by omega
  simp only [if_pos hm] at hc
  split at hc
  · cases hc
  split at hc
  · cases hc
  split at hc
  · cases hc
  · cases hc

theorem not_receivable_pair (parse : Text → Option Json) (subscription : Text) :
    ¬Receivable parse subscription (responseBody [ofSize maxPayloadBytes, ofSize maxPayloadBytes]) := by
  rw [receivable_iff]
  have hpair := length_responseBody_pair (ofSize maxPayloadBytes) (ofSize maxPayloadBytes)
  rw [length_ofSize] at hpair
  simp only [maxPayloadBytes, kMaxResponseBytes] at hpair ⊢
  omega

theorem accepted_pair (limit : Nat) : ∀ received ∈ [ofSize maxPayloadBytes, ofSize maxPayloadBytes],
    PublishAccepts received.data ∧ received.envelope ≤ limit := by
  intro received hm
  simp only [List.mem_cons, List.not_mem_nil, or_false, or_self] at hm
  subst hm
  constructor
  · unfold PublishAccepts ofSize
    rw [List.length_replicate]
  · exact Nat.zero_le limit

theorem receivable_single (parse : Text → Option Json) (subscription : Text) {limit : Nat}
    (hlimit : limit ≤ 2 * 1024 * 1024) {received : ReceivedText} (hp : PublishAccepts received.data)
    (he : received.envelope ≤ limit) : Receivable parse subscription (responseBody [received]) := by
  rw [receivable_iff, length_responseBody_single, length_receivedText]
  unfold PublishAccepts maxPayloadBytes at hp
  unfold kMaxResponseBytes
  omega

theorem receivable_nil (parse : Text → Option Json) (subscription : Text) :
    Receivable parse subscription (responseBody []) := by
  rw [receivable_iff]
  decide

/-- **Batches that can be consumed**: of the batches a configuration asks for, each message with a payload `Publish`
accepts and at most `limit` characters besides, every one can be received exactly when it asks for one message a time. -/
theorem batches_receivable_iff (parse : Text → Option Json) (config : PubSubConfig) (limit : Nat)
    (hlimit : limit ≤ 2 * 1024 * 1024) (hv : validateClientConfig config = .ok ()) :
    (∀ batch : List ReceivedText, batch.length ≤ config.maxMessages →
      (∀ received ∈ batch, PublishAccepts received.data ∧ received.envelope ≤ limit) →
      Receivable parse config.replySubscription (responseBody batch)) ↔ config.maxMessages = 1 := by
  have hone := (maxMessages_admitted hv).1
  constructor
  · intro hall
    by_contra hne
    have htwo : 2 ≤ config.maxMessages := by omega
    exact not_receivable_pair parse config.replySubscription (hall _ htwo (accepted_pair limit))
  · intro hm batch hlen hbatch
    rw [hm] at hlen
    match batch, hlen, hbatch with
    | [], _, _              => exact receivable_nil parse config.replySubscription
    | [received], _, hbatch =>
      obtain ⟨hp, he⟩ := hbatch received List.mem_cons_self
      exact receivable_single parse config.replySubscription hlimit hp he

/-- A client that asks for `maxMessages` replies a time. -/
def batchClient (maxMessages : Nat) : PubSubConfig :=
  { projectId := ['p'], requestTopic := "requests".toList, replyTopic := "replies".toList,
    replySubscription := "replies-sub".toList, maxMessages }

/-- The largest payload, with an ack id, an attribute and a message id. -/
def largestReply : ReceivedText where
  ackId := "a1".toList
  data := List.replicate maxPayloadBytes 7
  attributes := "\"correlation-id\":\"c\"".toList
  members := ",\"messageId\":\"1\"".toList

/-- One message a pull can be received, and not every two. -/
theorem batches_receivable_iff_one :
    Receivable (fun _ => none) "replies-sub".toList (responseBody [largestReply]) ∧
    ¬ ∀ batch : List ReceivedText, batch.length ≤ (batchClient 2).maxMessages →
      (∀ received ∈ batch, PublishAccepts received.data ∧ received.envelope ≤ 1024) →
      Receivable (fun _ => none) (batchClient 2).replySubscription (responseBody batch) := by
  have haccepted : PublishAccepts largestReply.data ∧ largestReply.envelope ≤ 1024 := by
    refine ⟨?_, by decide⟩
    unfold PublishAccepts largestReply
    rw [List.length_replicate]
  refine ⟨?_, fun hall => ?_⟩
  · exact (batches_receivable_iff (fun _ => none) (batchClient 1) 1024 (by decide) rfl).2 rfl [largestReply] (by decide)
      fun received hm => by rw [List.mem_singleton.1 hm]; exact haccepted
  · have hone := (batches_receivable_iff (fun _ => none) (batchClient 2) 1024 (by decide) rfl).1 hall
    cases hone

/-- The default of ten messages a pull. -/
theorem not_batches_receivable_ten : ¬∀ batch : List ReceivedText, batch.length ≤ (batchClient 10).maxMessages →
    (∀ received ∈ batch, PublishAccepts received.data ∧ received.envelope ≤ 1024) →
    Receivable (fun _ => none) (batchClient 10).replySubscription (responseBody batch) := by
  intro hall
  exact not_receivable_pair _ _ (hall [ofSize maxPayloadBytes, ofSize maxPayloadBytes] (by decide) (accepted_pair 1024))

end PubSub
end Graftcode
