import Graftcode.Cpp
/-!
# TransportAbi — `TransportSendCommand` and the five transports under it

`GraftcodePluginsInterfaces/TransportPluginExports.h` and each plugin's `Transport*::SendCommand`.  The client's `Call`
and `malloc` are parameters; `World` is whatever `Call` acts on.  A pointer is `none` when it is null, and a buffer is
what `malloc` returned, its terminating zero included.
-/
namespace Graftcode
namespace TransportAbi

def TRANSPORT_PLUGIN_OK : Int32 := 0

def TRANSPORT_PLUGIN_ERROR : Int32 := -1

/-- `client_->Call(data, size)`. -/
abbrev Call (World : Type) := Option Bytes → Nat → World → Except Exn Bytes × World

/-- `static_cast<std::size_t>` of an `int32_t`. -/
def sizeCast (n : Int32) : Nat := (n.toInt % 2 ^ 64).toNat

/-! ## The transports -/

inductive Plugin where
  | pubSub
  | sqs
  | rabbitMq
  | serviceBus
  | kafka
  deriving DecidableEq, Repr

/-- `RejectGatewayErrorPayload`, written out in three of the transports. -/
def rejectGatewayErrorPayload : Bytes → Except Exn Unit
  | 255 :: rest => .error (.std (textOf rest))
  | _           => .ok ()

/-- Negative, or null and not empty. -/
def invalidRequest (message : Option Bytes) (len : Int32) : Bool :=
  decide (len.toInt < 0) || (decide (0 < len.toInt) && message.isNone)

/-- Null or negative. -/
def nullOrNegative (message : Option Bytes) (len : Int32) : Bool := message.isNone || decide (len.toInt < 0)

/-- What the transport throws before it calls the client. -/
def Plugin.checkPayload (p : Plugin) (message : Option Bytes) (len : Int32) : Except Exn Unit :=
  match p with
  | pubSub =>
    if invalidRequest message len then .error (.std "Pub/Sub transport: invalid request payload".toList) else .ok ()
  | sqs =>
    if invalidRequest message len then .error (.std "SQS transport: invalid request payload".toList) else .ok ()
  | rabbitMq   => if nullOrNegative message len then .error (.std "invalid RabbitMQ payload".toList) else .ok ()
  | serviceBus => if nullOrNegative message len then .error (.std "invalid Service Bus payload".toList) else .ok ()
  | kafka      => .ok ()

/-- `Transport*::SendCommand`. -/
def Plugin.sendCommand {World : Type} (p : Plugin) (call : Call World) (message : Option Bytes) (len : Int32)
    (w : World) : Except Exn Bytes × World :=
  match p.checkPayload message len with
  | .error e => (.error e, w)
  | .ok ()   =>
    match call message (sizeCast len) w with
    | (.error e, w')    => (.error e, w')
    | (.ok response, w') =>
      match rejectGatewayErrorPayload response with
      | .error e => (.error e, w')
      | .ok ()   => (.ok response, w')

/-! ## The C ABI -/

/-- A copy with a terminating zero, or null. -/
def copyBuffer (malloc : Nat → Bool) (data : Bytes) : Option Bytes :=
  if malloc (data.length + 1) then some (data ++ [0]) else none

/-- What the caller gets: the return value and what was written through the two pointers. -/
structure Sent where
  code        : Int32
  response    : Option Bytes
  responseLen : Int32
  deriving DecidableEq

/-- The second half of `SendCommand`: the error text in a buffer. -/
def sendError (malloc : Nat → Bool) (e : Exn) : Sent :=
  let error := e.message "unknown transport plugin error".toList
  let response := copyBuffer malloc (bytesOf error)
  ⟨TRANSPORT_PLUGIN_ERROR, response, if response.isSome then Int32.ofNat error.length else 0⟩

/-- `outs`: both out pointers are non-null.  `channel` is the transport object, or null. -/
def sendCommand {World : Type} (malloc : Nat → Bool) (outs : Bool) (channel : Option (Plugin × Call World))
    (message : Option Bytes) (messageLen : Int32) (w : World) : Sent × World :=
  if !outs then (⟨TRANSPORT_PLUGIN_ERROR, none, 0⟩, w)
  else
    match channel with
    | none => (sendError malloc (.std "transport channel is null".toList), w)
    | some (p, call) =>
      match p.sendCommand call message messageLen w with
      | (.error e, w')   => (sendError malloc e, w')
      | (.ok result, w') =>
        match copyBuffer malloc result with
        | none        => (sendError malloc (.std "std::bad_alloc".toList), w')
        | some buffer => (⟨TRANSPORT_PLUGIN_OK, some buffer, Int32.ofNat result.length⟩, w')

/-! ## What comes back -/

/-- The buffer holds exactly `data` and the length says so. -/
def Sent.holds (sent : Sent) (data : Bytes) : Prop :=
  sent.response = some (data ++ [0]) ∧ sent.responseLen.toInt = data.length

/-- The peer's answer, or the peer's error behind the marker byte, all of it. -/
def Sent.faithful (sent : Sent) (reply : Bytes) : Prop :=
  match reply with
  | 255 :: error => sent.code = TRANSPORT_PLUGIN_ERROR ∧ sent.holds error
  | _            => sent.code = TRANSPORT_PLUGIN_OK ∧ sent.holds reply

theorem rejectGatewayErrorPayload_ok {reply : Bytes} (h : ∀ error, reply ≠ 255 :: error) :
    rejectGatewayErrorPayload reply = .ok () := by
  unfold rejectGatewayErrorPayload
  split
  · exact absurd rfl (h _)
  · rfl

/-- The error path keeps a text exactly when it has no NUL. -/
theorem sendError_holds {malloc : Nat → Bool} (hmalloc : ∀ n, malloc n = true) {error : Bytes}
    (hlen : error.length < 2 ^ 31) : (sendError malloc (.std (textOf error))).holds error ↔ (0 : Byte) ∉ error := by
  have hcode : (sendError malloc (.std (textOf error))).response = some (bytesOf (cString (textOf error)) ++ [0]) := by
    simp [sendError, Exn.message, copyBuffer, hmalloc]
  rw [← nul_mem_textOf, ← cString_eq_self]
  constructor
  · rintro ⟨h, -⟩
    rw [hcode, Option.some.injEq, List.append_left_inj] at h
    have hl : (cString (textOf error)).length = (textOf error).length := by
      rw [length_textOf, ← congrArg List.length h, bytesOf, List.length_map]
    exact (List.takeWhile_prefix _).eq_of_length hl
  · intro h
    refine ⟨by rw [hcode, h, bytesOf_textOf], ?_⟩
    simp only [sendError, Exn.message, h, copyBuffer, hmalloc, if_true, Option.isSome_some, length_textOf]
    exact Int32.toInt_ofNat_of_lt hlen

/-- **The error path loses what stands after a NUL**: what the client's `Call` returned reaches the caller byte for
byte unless it is an error with a NUL in it. -/
theorem sendCommand_faithful_iff {World : Type} {malloc : Nat → Bool} (hmalloc : ∀ n, malloc n = true) (p : Plugin)
    (call : Call World) (message : Option Bytes) (len : Int32) (w w' : World) (reply : Bytes)
    (hcheck : p.checkPayload message len = .ok ()) (hcall : call message (sizeCast len) w = (.ok reply, w'))
    (hlen : reply.length < 2 ^ 31) :
    (sendCommand malloc true (some (p, call)) message len w).1.faithful reply ↔
      ¬ ∃ error, reply = 255 :: error ∧ (0 : Byte) ∈ error := by
  by_cases hmark : ∃ error, reply = 255 :: error
  · obtain ⟨error, rfl⟩ := hmark
    have hsent : (sendCommand malloc true (some (p, call)) message len w).1 = sendError malloc (.std (textOf error)) := by
      simp [sendCommand, Plugin.sendCommand, hcheck, hcall, rejectGatewayErrorPayload]
    have hl : error.length < 2 ^ 31 := Nat.lt_of_succ_lt hlen
    rw [hsent, Sent.faithful, sendError_holds hmalloc hl]
    constructor
    · rintro ⟨-, hnul⟩ ⟨error', he, hm⟩
      cases he
      exact hnul hm
    · intro h
      exact ⟨rfl, fun hm => h ⟨error, rfl, hm⟩⟩
  · have hne : ∀ error, reply ≠ 255 :: error := fun error h => hmark ⟨error, h⟩
    have hsent : (sendCommand malloc true (some (p, call)) message len w).1 =
        ⟨TRANSPORT_PLUGIN_OK, some (reply ++ [0]), Int32.ofNat reply.length⟩ := by
      simp [sendCommand, Plugin.sendCommand, hcheck, hcall, rejectGatewayErrorPayload_ok hne, copyBuffer, hmalloc]
    rw [hsent]
    unfold Sent.faithful
    split
    · exact absurd rfl (hne _)
    · simp only [Sent.holds, true_and]
      exact ⟨fun _ h => hmark ⟨h.choose, h.choose_spec.1⟩, fun _ => Int32.toInt_ofNat_of_lt hlen⟩

/-- A client that gives one answer whatever it is asked. -/
def answering (reply : Bytes) : Call Unit := fun _ _ w => (.ok reply, w)

theorem sendCommand_faithful_answer :
    (sendCommand (fun _ => true) true (some (.pubSub, answering [255, 69, 82, 82])) (some [1]) 1 ()).1.faithful
      [255, 69, 82, 82] :=
  (sendCommand_faithful_iff (fun _ => rfl) .pubSub (answering [255, 69, 82, 82]) (some [1]) 1 () () [255, 69, 82, 82]
    rfl rfl (by decide)).2 (by rintro ⟨error, h, hm⟩; cases h; revert hm; decide)

/-- The error `E\0R` arrives as `E`. -/
theorem sendCommand_truncates :
    (sendCommand (fun _ => true) true (some (.pubSub, answering [255, 69, 0, 82])) (some [1]) 1 ()).1 =
        ⟨TRANSPORT_PLUGIN_ERROR, some [69, 0], 1⟩ ∧
      ¬ (sendCommand (fun _ => true) true (some (.pubSub, answering [255, 69, 0, 82])) (some [1]) 1 ()).1.faithful
        [255, 69, 0, 82] := by
  have h : (sendCommand (fun _ => true) true (some (.pubSub, answering [255, 69, 0, 82])) (some [1]) 1 ()).1 =
      ⟨TRANSPORT_PLUGIN_ERROR, some [69, 0], 1⟩ := by decide +kernel
  refine ⟨h, ?_⟩
  rw [h]
  rintro ⟨-, hr, -⟩
  revert hr
  decide

end TransportAbi
end Graftcode
