import Graftcode.TransportAbi
/-!
# RequestLength — the byte count a request is built with

`TransportSendCommand` of each plugin down to where its client hands pointer and byte count to what builds the request:
`produce`, `Link::Publish`, the AMQP body, `EncodePayload`, `PubSubSession::Publish`.  What stands below is a parameter.
-/
namespace Graftcode
namespace TransportAbi

/-! ## The clients -/

/-- A request as it is built: the bytes behind the pointer (`""` for null) and how many of them are taken. -/
structure Request where
  payload     : Bytes
  payloadSize : Nat
  deriving DecidableEq

/-- What a client calls: `EnsureStarted`, `EnsureDispatcher` or `CurrentLink`, and from the request to its reply. -/
structure Link (World : Type) where
  start    : World → Except Exn Unit × World
  /-- How often `PubSubClient::Call` publishes again after a 404. -/
  retries  : World → Nat
  exchange : Request → World → Except Exn Bytes × World

/-- What the client acts on, and the requests built so far. -/
structure Wire (World : Type) where
  world    : World
  requests : List Request
  deriving DecidableEq

/-- 10 MiB. -/
def MaxPayloadBytes : Nat := 10 * 1024 * 1024

/-- `data == nullptr && size > 0`, the guard all five clients have. -/
def rejectNull (what : Text) (data : Option Bytes) (size : Nat) : Except Exn Unit :=
  if data.isNone && decide (0 < size) then .error (.std what) else .ok ()

/-- What the client's `Call` throws before it starts anything.  `queue` is RabbitMQ's. -/
def Plugin.checkCall (p : Plugin) (queue : Text) (data : Option Bytes) (size : Nat) : Except Exn Unit :=
  match p with
  | pubSub =>
    if MaxPayloadBytes < size then
      .error (.std "Pub/Sub plugin: payload exceeds the 10 MiB Pub/Sub limit".toList)
    else rejectNull "Pub/Sub client: null payload with non-zero length".toList data size
  | sqs      => rejectNull "SQS client: null payload with non-zero length".toList data size
  | rabbitMq =>
    if queue.isEmpty then .error (.std "RabbitMQ queue is not configured".toList)
    else rejectNull "RabbitMQ client: null payload with non-zero length".toList data size
  | serviceBus => rejectNull "Service Bus client: null payload with non-zero length".toList data size
  | kafka      => rejectNull "KafkaClient::call: null data with non-zero length".toList data size

/-- How often the request is built. -/
def Plugin.attempts {World : Type} (p : Plugin) (link : Link World) (w : World) : Nat :=
  match p with
  | pubSub => link.retries w + 1
  | _      => 1

/-- `Call` of the plugin's client. -/
def Plugin.call {World : Type} (p : Plugin) (queue : Text) (link : Link World) : Call (Wire World) := fun data size w =>
  match p.checkCall queue data size with
  | .error e => (.error e, w)
  | .ok ()   =>
    match link.start w.world with
    | (.error e, s) => (.error e, { w with world := s })
    | (.ok (), s)   =>
      let request : Request := ⟨data.getD [], size⟩
      let (reply, s') := link.exchange request s
      (reply, ⟨s', w.requests ++ List.replicate (p.attempts link s) request⟩)

/-- A transport object and the client it owns. -/
structure Channel (World : Type) where
  plugin : Plugin
  queue  : Text
  link   : Link World

/-- The exported `TransportSendCommand`. -/
def transportSendCommand {World : Type} (malloc : Nat → Bool) (outs : Bool) (channel : Option (Channel World))
    (message : Option Bytes) (messageLen : Int32) (w : Wire World) : Sent × Wire World :=
  sendCommand malloc outs (channel.map fun c => (c.plugin, c.plugin.call c.queue c.link)) message messageLen w

/-! ## A malformed length -/

/-- Negative, or not zero behind a null pointer. -/
def Malformed (message : Option Bytes) (len : Int32) : Prop := len.toInt < 0 ∨ message = none ∧ len.toInt ≠ 0

/-- What a call with this message and length may leave behind: a malformed length is an error and builds no request,
and a request is built of as many bytes as were given. -/
structure LengthKept {World : Type} (message : Option Bytes) (len : Int32) (w : Wire World)
    (result : Sent × Wire World) : Prop where
  rejected : Malformed message len → result.1.code = TRANSPORT_PLUGIN_ERROR ∧ result.2.requests = w.requests
  counted  : ∃ sent, result.2.requests = w.requests ++ sent ∧ ∀ request ∈ sent, (request.payloadSize : Int) = len.toInt

theorem sizeCast_of_nonneg {len : Int32} (h : 0 ≤ len.toInt) : (sizeCast len : Int) = len.toInt := by
  have hlt := len.toInt_lt
  unfold sizeCast
  omega

theorem sizeCast_of_neg {len : Int32} (h : len.toInt < 0) : (sizeCast len : Int) = 2 ^ 64 + len.toInt := by
  have hle := len.le_toInt
  unfold sizeCast
  omega

theorem sizeCast_pos {len : Int32} (h : len.toInt ≠ 0) : 0 < sizeCast len := by
  by_cases hneg : len.toInt < 0
  · have := sizeCast_of_neg hneg
    have := len.le_toInt
    omega
  · have := sizeCast_of_nonneg (Int.not_lt.1 hneg)
    omega

theorem ne_zero_of_malformed {message : Option Bytes} {len : Int32} (h : Malformed message len) : len.toInt ≠ 0 := by
  rcases h with hneg | ⟨-, hne⟩
  · omega
  · exact hne

theorem invalidRequest_of_malformed {message : Option Bytes} {len : Int32} (h : Malformed message len) :
    invalidRequest message len = true := by
  rcases h with hneg | ⟨rfl, hne⟩
  · simp [invalidRequest, hneg]
  · simp only [invalidRequest, Option.isNone_none, Bool.and_true, Bool.or_eq_true, decide_eq_true_eq]
    omega

theorem nullOrNegative_of_malformed {message : Option Bytes} {len : Int32} (h : Malformed message len) :
    nullOrNegative message len = true := by
  rcases h with hneg | ⟨rfl, -⟩
  · simp [nullOrNegative, hneg]
  · simp [nullOrNegative]

theorem rejectNull_none (what : Text) {size : Nat} (h : 0 < size) : rejectNull what none size = .error (.std what) := by
  simp [rejectNull, h]

theorem rejectNull_some (what : Text) (data : Bytes) (size : Nat) : rejectNull what (some data) size = .ok () := by
  simp [rejectNull]

/-! ## The clients and the transports -/

section
variable {World : Type} (p : Plugin) (queue : Text) (link : Link World)

/-- No client goes on with a null pointer and bytes to read from it. -/
theorem Plugin.checkCall_null {size : Nat} (h : 0 < size) : ∃ e, p.checkCall queue none size = .error e := by
  cases p with
  | pubSub =>
    by_cases hmax : MaxPayloadBytes < size
    · exact ⟨_, if_pos hmax⟩
    · exact ⟨_, (if_neg hmax).trans (rejectNull_none _ h)⟩
  | rabbitMq =>
    by_cases hqueue : queue.isEmpty = true
    · exact ⟨_, if_pos hqueue⟩
    · exact ⟨_, (if_neg hqueue).trans (rejectNull_none _ h)⟩
  | sqs        => exact ⟨_, rejectNull_none _ h⟩
  | serviceBus => exact ⟨_, rejectNull_none _ h⟩
  | kafka      => exact ⟨_, rejectNull_none _ h⟩

/-- A client's call adds only requests of the size it was given. -/
theorem Plugin.call_requests (data : Option Bytes) (size : Nat) (w : Wire World) :
    ∃ sent, (p.call queue link data size w).2.requests = w.requests ++ sent ∧
      ∀ request ∈ sent, request.payloadSize = size := by
  unfold Plugin.call
  cases hcheck : p.checkCall queue data size with
  | error e => exact ⟨[], by simp⟩
  | ok u =>
    cases hstart : link.start w.world with
    | mk started s =>
      cases started with
      | error e => exact ⟨[], by simp⟩
      | ok u =>
        refine ⟨List.replicate (p.attempts link s) ⟨data.getD [], size⟩, by simp, fun request hr => ?_⟩
        rw [List.eq_of_mem_replicate hr]

/-- The transport acts on the wire only through the client, and not at all once it has thrown. -/
theorem Plugin.sendCommand_snd (call : Call World) (message : Option Bytes) (len : Int32) (w : World)
    (h : p.checkPayload message len = .ok ()) :
    (p.sendCommand call message len w).2 = (call message (sizeCast len) w).2 := by
  unfold Plugin.sendCommand
  rw [h]
  rcases call message (sizeCast len) w with ⟨response | response, w'⟩
  · rfl
  · cases hreject : rejectGatewayErrorPayload response <;> simp [hreject]

/-- **Four guards, and the pointer's in all five**: a malformed length ends in the transport or in the client's own
guard with nothing changed, but for Kafka's transport with bytes behind the pointer. -/
theorem Plugin.sendCommand_malformed {message : Option Bytes} {len : Int32} (h : Malformed message len)
    (hp : p = .kafka → message = none) (w : Wire World) :
    ∃ e, p.sendCommand (p.call queue link) message len w = (.error e, w) := by
  by_cases hcheck : ∃ e, p.checkPayload message len = .error e
  · obtain ⟨e, he⟩ := hcheck
    exact ⟨e, by rw [Plugin.sendCommand, he]⟩
  · have hkafka : p = .kafka := by
      cases p with
      | kafka => rfl
      | pubSub => exact absurd ⟨_, if_pos (invalidRequest_of_malformed h)⟩ hcheck
      | sqs => exact absurd ⟨_, if_pos (invalidRequest_of_malformed h)⟩ hcheck
      | rabbitMq => exact absurd ⟨_, if_pos (nullOrNegative_of_malformed h)⟩ hcheck
      | serviceBus => exact absurd ⟨_, if_pos (nullOrNegative_of_malformed h)⟩ hcheck
    have hnull : message = none := hp hkafka
    subst hkafka hnull
    obtain ⟨e, he⟩ := Plugin.checkCall_null .kafka queue (sizeCast_pos (ne_zero_of_malformed h))
    exact ⟨e, by simp [Plugin.sendCommand, Plugin.checkPayload, Plugin.call, he]⟩

/-- Kafka's transport has no guard: once the client is started, a negative length behind a pointer is built into a
request as its conversion. -/
theorem kafka_builds (bytes : Bytes) (len : Int32) {w : Wire World} (hstart : (link.start w.world).1 = .ok ()) :
    (Plugin.kafka.sendCommand (Plugin.kafka.call queue link) (some bytes) len w).2.requests =
      w.requests ++ [⟨bytes, sizeCast len⟩] := by
  rw [Plugin.sendCommand_snd .kafka _ _ _ _ rfl]
  cases hs : link.start w.world with
  | mk started s =>
    rw [hs] at hstart
    cases (hstart : started = .ok ())
    simp [Plugin.call, Plugin.checkCall, rejectNull_some, hs, Plugin.attempts]

theorem kafka_not_started (bytes : Bytes) (len : Int32) {w : Wire World} (hstart : (link.start w.world).1 ≠ .ok ()) :
    ∃ e, Plugin.kafka.sendCommand (Plugin.kafka.call queue link) (some bytes) len w =
      (.error e, { w with world := (link.start w.world).2 }) := by
  cases hs : link.start w.world with
  | mk started s =>
    cases started with
    | ok u => exact absurd (by rw [hs]) hstart
    | error e =>
      exact ⟨e, by simp [Plugin.sendCommand, Plugin.checkPayload, Plugin.call, Plugin.checkCall, rejectNull_some, hs]⟩

end

/-! ## `TransportSendCommand` -/

section
variable {World : Type} (malloc : Nat → Bool)

theorem sendCommand_error {p : Plugin} {call : Call World} {message : Option Bytes} {len : Int32} {w w' : World} {e : Exn}
    (h : p.sendCommand call message len w = (.error e, w')) :
    sendCommand malloc true (some (p, call)) message len w = (sendError malloc e, w') := by
  simp [sendCommand, h]

theorem sendCommand_snd (p : Plugin) (call : Call World) (message : Option Bytes) (len : Int32) (w : World) :
    (sendCommand malloc true (some (p, call)) message len w).2 = (p.sendCommand call message len w).2 := by
  simp only [sendCommand, Bool.not_true, Bool.false_eq_true, if_false]
  rcases p.sendCommand call message len w with ⟨e | result, w'⟩
  · rfl
  · cases hcopy : copyBuffer malloc result <;> simp [hcopy]

/-- Both out pointers, a Kafka transport whose client is started or starts now, and a negative length behind a pointer. -/
def Unguarded (outs : Bool) (channel : Option (Channel World)) (message : Option Bytes) (len : Int32) (w : Wire World) :
    Prop :=
  outs = true ∧ message ≠ none ∧ len.toInt < 0 ∧
    ∃ c, channel = some c ∧ c.plugin = .kafka ∧ (c.link.start w.world).1 = .ok ()

/-- Whatever the plugin, every request is of the converted length. -/
theorem transportSendCommand_requests (outs : Bool) (channel : Option (Channel World)) (message : Option Bytes)
    (len : Int32) (w : Wire World) :
    ∃ sent, (transportSendCommand malloc outs channel message len w).2.requests = w.requests ++ sent ∧
      ∀ request ∈ sent, request.payloadSize = sizeCast len := by
  cases outs with
  | false => exact ⟨[], by simp [transportSendCommand, sendCommand]⟩
  | true =>
    cases channel with
    | none => exact ⟨[], by simp [transportSendCommand, sendCommand]⟩
    | some c =>
      simp only [transportSendCommand, Option.map_some, sendCommand_snd]
      cases hcheck : c.plugin.checkPayload message len with
      | error e => exact ⟨[], by simp [Plugin.sendCommand, hcheck]⟩
      | ok u =>
        rw [Plugin.sendCommand_snd _ _ _ _ _ hcheck]
        exact Plugin.call_requests c.plugin c.queue c.link message (sizeCast len) w

theorem transportSendCommand_rejected {outs : Bool} {channel : Option (Channel World)} {message : Option Bytes}
    {len : Int32} {w : Wire World} (h : Malformed message len) (hg : ¬ Unguarded outs channel message len w) :
    (transportSendCommand malloc outs channel message len w).1.code = TRANSPORT_PLUGIN_ERROR ∧
      (transportSendCommand malloc outs channel message len w).2.requests = w.requests := by
  cases outs with
  | false => exact ⟨rfl, rfl⟩
  | true =>
    cases channel with
    | none => exact ⟨rfl, rfl⟩
    | some c =>
      simp only [transportSendCommand, Option.map_some]
      by_cases hp : c.plugin = .kafka → message = none
      · obtain ⟨e, he⟩ := Plugin.sendCommand_malformed c.plugin c.queue c.link h hp w
        rw [sendCommand_error malloc he]
        exact ⟨rfl, rfl⟩
      · obtain ⟨hkafka, hsome⟩ := Classical.not_imp.1 hp
        obtain ⟨bytes, rfl⟩ := Option.ne_none_iff_exists'.1 hsome
        have hneg : len.toInt < 0 := h.resolve_right fun hnull => hsome hnull.1
        have hstart : (c.link.start w.world).1 ≠ .ok () := fun hs => hg ⟨rfl, hsome, hneg, c, rfl, hkafka, hs⟩
        obtain ⟨e, he⟩ := kafka_not_started c.queue c.link bytes len hstart
        rw [hkafka, sendCommand_error malloc he]
        exact ⟨rfl, rfl⟩

/-- **Kafka converts before anything has looked at the length**: the length is kept in every call but that of a started
Kafka client with a negative length behind a pointer. -/
theorem lengthKept_iff (outs : Bool) (channel : Option (Channel World)) (message : Option Bytes) (len : Int32)
    (w : Wire World) :
    LengthKept message len w (transportSendCommand malloc outs channel message len w) ↔
      ¬ Unguarded outs channel message len w := by
  constructor
  · rintro hkept ⟨rfl, hsome, hneg, c, rfl, hkafka, hstart⟩
    obtain ⟨bytes, rfl⟩ := Option.ne_none_iff_exists'.1 hsome
    have hsame := (hkept.rejected (.inl hneg)).2
    have hbuilt := kafka_builds c.queue c.link bytes len hstart
    simp only [transportSendCommand, Option.map_some, sendCommand_snd] at hsame
    rw [hkafka, hbuilt] at hsame
    simp at hsame
  · intro hg
    refine ⟨fun h => transportSendCommand_rejected malloc h hg, ?_⟩
    obtain ⟨sent, hsent, hsize⟩ := transportSendCommand_requests malloc outs channel message len w
    by_cases h : Malformed message len
    · exact ⟨[], by rw [(transportSendCommand_rejected malloc h hg).2, List.append_nil], by simp⟩
    · refine ⟨sent, hsent, fun request hr => ?_⟩
      rw [hsize request hr]
      exact sizeCast_of_nonneg (Int.not_lt.1 fun hneg => h (.inl hneg))

end

/-- A link that is up and gives an empty reply. -/
def upLink : Link Unit := ⟨fun w => (.ok (), w), fun _ => 0, fun _ w => (.ok [], w)⟩

/-- Length -1 behind a pointer to one byte: a request of `2 ^ 64 - 1` bytes. -/
theorem not_lengthKept_negative :
    (transportSendCommand (fun _ => true) true (some ⟨.kafka, [], upLink⟩) (some [7]) (-1) ⟨(), []⟩).2.requests =
        [⟨[7], 2 ^ 64 - 1⟩] ∧
      ¬ LengthKept (some [7]) (-1) (⟨(), []⟩ : Wire Unit)
        (transportSendCommand (fun _ => true) true (some ⟨.kafka, [], upLink⟩) (some [7]) (-1) ⟨(), []⟩) := by
  have hbuilt : (transportSendCommand (fun _ => true) true (some ⟨.kafka, [], upLink⟩) (some [7]) (-1)
      ⟨(), []⟩).2.requests = [⟨[7], 2 ^ 64 - 1⟩] := by decide +kernel
  refine ⟨hbuilt, fun hkept => ?_⟩
  have hsame := (hkept.rejected (.inl (by decide))).2
  rw [hbuilt] at hsame
  exact List.cons_ne_nil _ _ hsame

end TransportAbi
end Graftcode
