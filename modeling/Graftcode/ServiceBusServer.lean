import Graftcode.Cpp
import Graftcode.Prog
/-!
# ServiceBusServer — the consumer of the Service Bus gateway

`ServiceBusServer::start` of `ServiceBusServer.cpp`.  The SDK settles every message that `WaitForIncomingMessage` hands
out.  A call of `ReplySenderCache::publish` is one event here.  Logging, sleeping, the looks at the flag that decide
only about these, and the closing of the reply senders and the receiver leave no event.
-/
namespace Graftcode
namespace ServiceBus

open Prog (emit call ofExcept attempt iterate)

/-- An AMQP value as far as it is read: a string, or something that is not one. -/
inductive AmqpValue where
  | null
  | string (value : Text)
  | other

/-- A body of binary sections, of a value, or of another kind. -/
inductive MessageBody where
  | data (sections : List Bytes)
  | value (value : AmqpValue)
  | other

structure AmqpMessage where
  body : MessageBody
  messageId : AmqpValue := .null
  correlationId : AmqpValue := .null
  contentType : Option Text := none
  replyTo : AmqpValue := .null
  groupId : Option Text := none
  replyToGroupId : Option Text := none
  applicationProperties : List (Text × AmqpValue) := []

/-- What `WaitForIncomingMessage` came to. -/
inductive Incoming where
  | throws
  | error (description : Text)
  | nothing
  | message (m : AmqpMessage)

inductive Event where
  | stopRequested (stop : Bool)
  | connect (result : Except Exn Unit)
  | receive (incoming : Incoming)
  | currentProcessMessage (configured : Bool)
  | processMessage (payload : Bytes) (writes : List (Option Bytes)) (result : Except Exn Bool)
  | publishReply (replyEntity : Text) (response : Bytes) (correlationId : AmqpValue) (replySessionId : Option Text)
      (result : Except Exn Bool)
  | closeAll

structure ServiceBusServerConfig where
  queue : Text := []
  topic : Text := []
  subscription : Text := []

/-- From a topic subscription, without replies. -/
def ServiceBusServerConfig.oneWay (config : ServiceBusServerConfig) : Bool := !config.subscription.isEmpty

/-- Caught by `catch (const std::exception&)`. -/
def isStd : Exn → Bool
  | .std _   => true
  | .unknown => false

def extractMessageBody (message : AmqpMessage) : Bytes :=
  match message.body with
  | .data sections           => sections.flatten
  | .value (.string text)    => bytesOf text
  | .value _                 => []
  | .other                   => []

def tryGetReplyTo (message : AmqpMessage) : Option Text :=
  match message.replyTo with
  | .string value => if value.isEmpty then none else some value
  | _             => none

/-- `ReplyToGroupId`, else the application property. -/
def tryGetReplySessionId (message : AmqpMessage) : Option Text :=
  match message.replyToGroupId.filter (!·.isEmpty) with
  | some id => some id
  | none    =>
    match message.applicationProperties.lookup "ReplyToSessionId".toList with
    | some (.string value) => if value.isEmpty then none else some value
    | _                    => none

def processMessage (payload : Bytes) : Prog Exn Event (Bool × Bytes) :=
  emit (fun r : List (Option Bytes) × Except Exn Bool => Event.processMessage payload r.1 r.2) >>= fun r =>
    ofExcept (r.2.map fun processed => (processed, responseOf r.1))

/-- The reply, when the request says where it goes; whether it went is only logged. -/
def reply (message : AmqpMessage) (response : Bytes) : Prog Exn Event Unit :=
  match tryGetReplyTo message with
  | none             => pure ()
  | some replyEntity => do
    let _ ← call (Event.publishReply replyEntity response message.messageId (tryGetReplySessionId message))
    pure ()

def notConfigured : Exn := .std "Service Bus consumer: processMessage callback is not configured".toList

/-- The body of the receive loop on a message. -/
def handleMessage (config : ServiceBusServerConfig) (message : AmqpMessage) : Prog Exn Event Unit :=
  let request := extractMessageBody message
  if request.isEmpty then pure ()
  else do
    let configured ← emit Event.currentProcessMessage
    if !configured then Prog.throw notConfigured
    else
      let (processed, response) ← processMessage request
      if !processed then pure ()
      else if config.oneWay then pure ()
      else reply message response

/-- The receive loop; an error of the receiver leaves it. -/
def receive (config : ServiceBusServerConfig) : Nat → Prog Exn Event Unit :=
  fun fuel => iterate (fun _ : Unit => do
    let stop ← emit Event.stopRequested
    if stop then pure (.inr ())
    else
      let incoming ← emit Event.receive
      match incoming with
      | .throws    => pure (.inl ())
      | .error _   => pure (.inr ())
      | .nothing   => pure (.inl ())
      | .message m => do
        handleMessage config m
        pure (.inl ())) fuel ()

/-- One connection: `connect` is everything up to the opened receiver. -/
def connection (config : ServiceBusServerConfig) (fuel : Nat) : Prog Exn Event Unit := do
  call Event.connect
  receive config fuel
  emit fun _ : Unit => Event.closeAll

/-- `start`; both loops run for as long as they are observed. -/
def start (config : ServiceBusServerConfig) (fuel : Nat) : Prog Exn Event Unit :=
  (iterate (fun _ : Unit => do
    let stop ← emit Event.stopRequested
    if stop then pure (.inr ())
    else
      let _ ← attempt isStd (connection config fuel)
      pure (.inl ())) fuel ()).tryCatch fun _ => pure ()

/-! ## What a taken message has been through -/

/-- The message taken last, with the events since (latest first). -/
def takenLast : List Event → Option (AmqpMessage × List Event)
  | []                          => none
  | .receive (.message m) :: _  => some (m, [])
  | .receive _ :: _             => none
  | e :: h                      => (takenLast h).map fun taken => (taken.1, e :: taken.2)

/-- `processMessage` was called with the message's bytes; if it succeeded and a reply is wanted, the reply was
attempted. -/
def Handled (config : ServiceBusServerConfig) (m : AmqpMessage) (since : List Event) : Prop :=
  extractMessageBody m ≠ [] → ∃ writes result, .processMessage (extractMessageBody m) writes result ∈ since ∧
    (config.oneWay = false → result = .ok true → ∀ replyEntity, tryGetReplyTo m = some replyEntity →
      ∃ sent, .publishReply replyEntity (responseOf writes) m.messageId (tryGetReplySessionId m) sent ∈ since)

def LastHandled (config : ServiceBusServerConfig) (h : List Event) : Prop :=
  ∀ m since, takenLast h = some (m, since) → Handled config m since

/-- The server is done with the message it took: it asks for the next one, or looks whether to stop. -/
def MovesOn (e : Event) : Prop := (∃ incoming, e = .receive incoming) ∨ ∃ stop, e = .stopRequested stop

def HandledBefore (config : ServiceBusServerConfig) (h : List Event) (e : Event) : Prop := MovesOn e → LastHandled config h

/-- `configure` does not take a null callback. -/
def Configured (_h : List Event) (e : Event) : Prop := e ≠ .currentProcessMessage false

section Logic

variable {config : ServiceBusServerConfig} {h : List Event}

theorem takenLast_cons {e : Event} (he : ∀ incoming, e ≠ .receive incoming) :
    takenLast (e :: h) = (takenLast h).map fun taken => (taken.1, e :: taken.2) := by
  cases e with
  | receive incoming => exact absurd rfl (he incoming)
  | _ => rfl

theorem takenLast_append {m : AmqpMessage} {earlier : List Event} : ∀ {since : List Event},
    (∀ incoming, .receive incoming ∉ since) → takenLast (since ++ .receive (.message m) :: earlier) = some (m, since)
  | [], _ => rfl
  | e :: since, hs => by
    rw [List.cons_append, takenLast_cons fun incoming heq => hs incoming (heq ▸ List.mem_cons_self),
      takenLast_append fun incoming hm => hs incoming (List.mem_cons_of_mem _ hm)]
    rfl

theorem Handled.cons {m : AmqpMessage} {since : List Event} (hh : Handled config m since) (e : Event) :
    Handled config m (e :: since) := by
  intro hbody
  obtain ⟨writes, result, hp, hr⟩ := hh hbody
  refine ⟨writes, result, List.mem_cons_of_mem _ hp, fun hway hok replyEntity hto => ?_⟩
  obtain ⟨sent, hm⟩ := hr hway hok replyEntity hto
  exact ⟨sent, List.mem_cons_of_mem _ hm⟩

theorem LastHandled.cons (hl : LastHandled config h) {e : Event} (he : ∀ incoming, e ≠ .receive incoming) :
    LastHandled config (e :: h) := by
  intro m since ht
  rw [takenLast_cons he, Option.map_eq_some_iff] at ht
  obtain ⟨⟨m', since'⟩, ht', heq⟩ := ht
  cases heq
  exact (hl m' since' ht').cons e

theorem lastHandled_of_untaken (hu : takenLast h = none) : LastHandled config h := by
  intro m since ht
  rw [hu] at ht
  cases ht

theorem lastHandled_of_handled {m : AmqpMessage} {since earlier : List Event}
    (hs : ∀ incoming, .receive incoming ∉ since) (hh : Handled config m since) :
    LastHandled config (since ++ .receive (.message m) :: earlier) := by
  intro m' since' ht
  rw [takenLast_append hs] at ht
  cases ht
  exact hh

theorem handledBefore_of_ne {e : Event} (he : ¬ MovesOn e) : HandledBefore config h e := fun hm => absurd hm he

theorem safe_handleMessage (m : AmqpMessage) (earlier : List Event) :
    (handleMessage config m).Safe Configured (HandledBefore config) (fun h' _ => LastHandled config h')
      (.receive (.message m) :: earlier) := by
  unfold handleMessage
  dsimp only
  split
  · rename_i hempty
    exact @lastHandled_of_handled config m [] earlier (by simp) fun hne => absurd (List.isEmpty_iff.1 hempty) hne
  simp only [Prog.safe_bind, Prog.safe_emit, Prog.andThen_ok]
  intro configured hconfigured
  refine ⟨handledBefore_of_ne (by simp [MovesOn]), ?_⟩
  cases configured with
  | false => exact absurd rfl hconfigured
  | true =>
    simp only [Bool.not_true, Bool.false_eq_true, if_false, processMessage, Prog.safe_bind, Prog.safe_emit,
      Prog.andThen_ok, Prog.safe_ofExcept]
    rintro ⟨writes, result⟩ -
    refine ⟨handledBefore_of_ne (by simp [MovesOn]), ?_⟩
    -- what is said of the two events so far, when no reply has to be attempted
    have hdone : (config.oneWay = false → result = .ok true → tryGetReplyTo m = none) → LastHandled config
        (.processMessage (extractMessageBody m) writes result :: .currentProcessMessage true ::
          .receive (.message m) :: earlier) := by
      intro hno
      refine @lastHandled_of_handled config m [.processMessage _ writes result, .currentProcessMessage true] earlier
        (by simp) fun _ => ⟨writes, result, List.mem_cons_self, fun hway hok replyEntity hto => ?_⟩
      rw [hno hway hok] at hto
      cases hto
    match result with
    | .error e => exact hdone nofun
    | .ok false => exact hdone nofun
    | .ok true =>
      simp only [Except.map, Prog.andThen_ok, Bool.not_true, Bool.false_eq_true, if_false]
      split
      · rename_i hway
        exact hdone fun hno => by rw [hway] at hno; cases hno
      unfold reply
      cases hto : tryGetReplyTo m with
      | none => exact hdone fun _ _ => hto
      | some replyEntity =>
        rw [Prog.safe_bind, Prog.safe_call]
        intro sent _
        refine ⟨handledBefore_of_ne (by simp [MovesOn]), ?_⟩
        have hh : LastHandled config (.publishReply replyEntity (responseOf writes) m.messageId
            (tryGetReplySessionId m) sent :: .processMessage (extractMessageBody m) writes (.ok true) ::
            .currentProcessMessage true :: .receive (.message m) :: earlier) := by
          refine @lastHandled_of_handled config m [.publishReply _ _ _ _ sent, .processMessage _ writes (.ok true),
            .currentProcessMessage true] earlier (by simp) fun _ => ⟨writes, .ok true, by simp, fun _ _ entity hto' => ?_⟩
          rw [hto] at hto'
          cases hto'
          exact ⟨sent, by simp⟩
        cases sent <;> exact hh

theorem safe_receive (fuel : Nat) (hl : LastHandled config h) :
    (receive config fuel).Safe Configured (HandledBefore config) (fun h' _ => LastHandled config h') h := by
  refine Prog.safe_iterate (fun _ h => LastHandled config h) (fun _ h hl => ?_) fuel () h hl
  simp only [Prog.safe_bind, Prog.safe_emit, Prog.andThen_ok]
  intro stop _
  have hl' := @LastHandled.cons config h hl (.stopRequested stop) (by simp)
  refine ⟨fun _ => hl, ?_⟩
  split
  · exact hl'
  simp only [Prog.safe_bind, Prog.safe_emit, Prog.andThen_ok]
  intro incoming _
  refine ⟨fun _ => hl', ?_⟩
  cases incoming with
  | throws => exact lastHandled_of_untaken rfl
  | error description => exact lastHandled_of_untaken rfl
  | nothing => exact lastHandled_of_untaken rfl
  | message m =>
    refine (Prog.safe_bind ..).mpr ((safe_handleMessage m _).mono fun h' r hr => ?_)
    cases r <;> exact hr

theorem safe_connection (fuel : Nat) (hl : LastHandled config h) :
    (connection config fuel).Safe Configured (HandledBefore config) (fun h' _ => LastHandled config h') h := by
  unfold connection
  simp only [Prog.safe_bind, Prog.safe_call]
  intro result _
  have hl' := @LastHandled.cons config h hl (.connect result) (by simp)
  refine ⟨handledBefore_of_ne (by simp [MovesOn]), ?_⟩
  cases result with
  | error e => exact hl'
  | ok u =>
    refine (Prog.safe_bind ..).mpr ((safe_receive fuel hl').mono fun h' r hr => ?_)
    cases r with
    | error e => exact hr
    | ok u => exact fun _ _ => ⟨handledBefore_of_ne (by simp [MovesOn]), hr.cons (by simp)⟩

theorem safe_start (fuel : Nat) :
    Prog.Keeps Configured (HandledBefore config) (start config fuel) [] := by
  refine Prog.Safe.keeps_tryCatch ?_ fun _ _ => trivial
  have hstart : LastHandled config [] := lastHandled_of_untaken rfl
  refine Prog.safe_iterate (fun _ h => LastHandled config h) (fun _ h hl => ?_) fuel () [] hstart
  simp only [Prog.safe_bind, Prog.safe_emit, Prog.andThen_ok]
  intro stop _
  have hl' := @LastHandled.cons config h hl (.stopRequested stop) (by simp)
  refine ⟨fun _ => hl, ?_⟩
  split
  · trivial
  rw [Prog.safe_bind, Prog.safe_attempt]
  refine (safe_connection fuel hl').mono fun h' r hr => ?_
  cases r with
  | ok u => exact hr
  | error e =>
    rw [Prog.attempted_error]
    split
    · exact hr
    · trivial

/-- **Every run of the consumer moves on only from a message it has handled.** -/
theorem start_admits {fuel : Nat} {t : List Event} {o : Outcome Exn Unit} (hr : (start config fuel).Runs t o)
    (hconfigured : Prog.Admits Configured [] t) : Prog.Admits (HandledBefore config) [] t :=
  (safe_start fuel).admits hr hconfigured

end Logic

end ServiceBus
end Graftcode
