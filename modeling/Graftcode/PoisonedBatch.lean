import Mathlib.Data.Fintype.EquivFin
import Graftcode.PendingCells
import Graftcode.PubSubClient
import Graftcode.PubSubServer
/-!
# PoisonedBatch — one message that is not Base64

`Pull` decodes while it builds its batch, so the first element that does not decode ends the whole batch: nothing of the
response reaches the server's handler, and the client's dispatcher fails every call that waits, whoever's reply it was.
`unblocked_iff` says that the batch is delivered, and nobody else failed, exactly when every element decodes.
-/
namespace Graftcode
namespace PubSub

open Prog (emit ofExcept attempt iterate forEach Keeps)

/-- An answer to a pull, and the elements it carries. -/
structure Carried (parse : Text → Option Json) (result : HttpResult) (items : List Json) : Prop where
  succeeded : 200 ≤ result.status ∧ result.status < 300
  inTime : result.timedOut = false
  received : (parse result.body).bind (Json.findArray? "receivedMessages".toList) = some items

/-- The data of an element, still encoded. -/
def dataIn (item : Json) : Option Text :=
  (item.findObject? "message".toList).bind (Json.findString? "data".toList)

/-- The data of an element is Base64, where it has any. -/
def Decodes (item : Json) : Prop := ∀ text, dataIn item = some text → ∃ data, base64Decode text = .ok data

/-- The correlation id an element carries, whether or not its data decodes. -/
def correlationIdIn (item : Json) : Option Text :=
  ((item.findObject? "message".toList).bind (Json.findObject? "attributes".toList)).bind fun attributes =>
    attributes.strings.lookup correlationIdAttribute

/-- A message the server's handler goes on with. -/
def Accepted (config : PubSubConfig) (message : PulledMessage) : Prop :=
  config.oneWay = true ∨ (correlationIdOf message ≠ [] ∧ isValidResourceId (replyToOf config message) = true)

/-- A pull comes to `result`. -/
def Gets (result : HttpResult) (e : Event) : Prop :=
  ∀ config subscription n answer, e = .request (pullRequest config subscription n) answer → answer = .ok result

/-- **No element blocks another**: what is well formed comes out of `Pull`, reaches the handler of a server and completes
the call of a client, and what is not fails no call whose correlation id it does not carry. -/
structure Unblocked (parse : Text → Option Json) (config : PubSubConfig) (result : HttpResult) (items : List Json) :
    Prop where
  pulled : ∀ subscription item message, item ∈ items → item.isObject = true → pulledMessage item = .ok message →
    ∃ batch, pulled parse subscription (.ok result) = .ok batch ∧ message ∈ batch
  handled : ∀ t, (pull parse config config.requestSubscription 1 >>= handleBatch config).Runs t (.done ()) →
    (∀ e ∈ t, Gets result e) → .stopRequested true ∉ t → ∀ item message, item ∈ items → item.isObject = true →
    pulledMessage item = .ok message → Accepted config message →
    ∃ writes r, .processMessage message.data writes r ∈ t
  completed : ∀ t, (dispatchBatch parse config).Runs t (.done ()) → (∀ e ∈ t, Gets result e) → ∀ item message, item ∈ items →
    item.isObject = true → pulledMessage item = .ok message → ∀ id,
    message.attributes.lookup correlationIdAttribute = some id → ∃ found, .pending (.completed id message.data found) ∈ t
  unfailed : ∀ t o, (dispatchBatch parse config).Runs t o → (∀ e ∈ t, Gets result e) → ∀ id,
    (∀ item ∈ items, item.isObject = true → ¬Decodes item → correlationIdIn item ≠ some id) →
    ∀ event error, .pending event ∈ t → PendingReplies.finishFor id event ≠ some (.threw error)

/-! ## The batch -/

theorem pulledMessage_error {item : Json} {e : Error} :
    pulledMessage item = .error e ↔
      ∃ text what, dataIn item = some text ∧ base64Decode text = .error what ∧ e = .exn (.std what) := by
  unfold pulledMessage dataIn
  cases item.findObject? "message".toList with
  | none => simp
  | some payload =>
    dsimp only [Option.bind_some]
    cases payload.findString? "data".toList with
    | none => simp
    | some text => cases ht : base64Decode text <;> simp [ht, eq_comm]

theorem decodes_iff (item : Json) : Decodes item ↔ ∃ message, pulledMessage item = .ok message := by
  constructor
  · intro hd
    cases hp : pulledMessage item with
    | ok message => exact ⟨message, rfl⟩
    | error e =>
      obtain ⟨text, what, ht, hw, -⟩ := pulledMessage_error.1 hp
      obtain ⟨data, hdata⟩ := hd text ht
      rw [hw] at hdata
      cases hdata
  · rintro ⟨message, hm⟩ text ht
    cases hw : base64Decode text with
    | ok data => exact ⟨data, rfl⟩
    | error what =>
      have he := pulledMessage_error.2 ⟨text, what, ht, hw, rfl⟩
      rw [hm] at he
      cases he

section Batch

variable {parse : Text → Option Json} {config : PubSubConfig} {result : HttpResult} {items : List Json}

theorem Carried.pulled_eq (hc : Carried parse result items) (subscription : Text) :
    pulled parse subscription (.ok result) = (items.filter Json.isObject).mapM pulledMessage := by
  simp only [pulled, Except.bind, hc.inTime, throwIfHttpFailed, if_pos hc.succeeded, receivedMessages, hc.received]
  rfl

theorem Carried.pulled_ok_iff (hc : Carried parse result items) (subscription : Text) :
    (∃ batch, pulled parse subscription (.ok result) = .ok batch) ↔
      ∀ item ∈ items, item.isObject = true → Decodes item := by
  rw [hc.pulled_eq, mapM_ok_iff]
  simp only [List.mem_filter, decodes_iff, and_imp]

theorem Carried.pulled_error (hc : Carried parse result items) (subscription : Text) {item : Json} (hm : item ∈ items)
    (ho : item.isObject = true) (hd : ¬Decodes item) :
    ∃ what, pulled parse subscription (.ok result) = .error (.exn (.std what)) := by
  cases hp : pulled parse subscription (.ok result) with
  | ok batch => exact absurd ((hc.pulled_ok_iff subscription).1 ⟨batch, hp⟩ item hm ho) hd
  | error e =>
    rw [hc.pulled_eq] at hp
    obtain ⟨item', -, he⟩ := mapM_error hp
    obtain ⟨text, what, -, -, rfl⟩ := pulledMessage_error.1 he
    exact ⟨what, rfl⟩

theorem Carried.mem_batch (hc : Carried parse result items) {subscription : Text} {batch : List PulledMessage}
    (hb : pulled parse subscription (.ok result) = .ok batch) {item : Json} {message : PulledMessage}
    (hm : item ∈ items) (ho : item.isObject = true) (hi : pulledMessage item = .ok message) : message ∈ batch := by
  rw [hc.pulled_eq] at hb
  exact mem_mapM hb (List.mem_filter.2 ⟨hm, ho⟩) hi

/-! ## The server -/

def Handled (config : PubSubConfig) (message : PulledMessage) (h : List Event) : Prop :=
  Accepted config message → ∃ writes r, .processMessage message.data writes r ∈ h

theorem handled_cons (message : PulledMessage) (h : List Event) (e : Event) (hh : Handled config message h) :
    Handled config message (e :: h) := fun ha =>
  (hh ha).imp fun _ ⟨r, hm⟩ => ⟨r, List.mem_cons_of_mem _ hm⟩

theorem safe_handled (R : List Event → Event → Prop) (message : PulledMessage) (h : List Event) :
    (handleMessage config message).Safe R (fun _ _ => True) (fun h' _ => Handled config message h') h := by
  unfold handleMessage
  dsimp only
  split
  · rename_i hn
    rintro (hw | ⟨hid, hr⟩)
    · simp [hw] at hn
    · simp [hid, hr] at hn
  · refine fun answer _ => ⟨trivial, ?_⟩
    have hh : Handled config message (.processMessage message.data answer.1 answer.2 :: h) :=
      fun _ => ⟨answer.1, answer.2, List.mem_cons_self⟩
    exact ((Prog.safe_true _ _).persist (handled_cons message) hh).mono fun _ _ hr => hr.1

theorem safe_handleBatch (batch : List PulledMessage) (h : List Event) :
    (handleBatch config batch).Safe (fun _ e => Gets result e ∧ e ≠ .stopRequested true) (fun _ _ => True)
      (fun h' r => r = .ok () → ∀ message ∈ batch, Handled config message h') h := by
  refine Prog.safe_forEach_each handled_cons batch (fun message _ h => ?_) h
  simp only [Prog.safe_bind, Prog.safe_emit, Prog.andThen_ok]
  intro stop hstop
  refine ⟨trivial, ?_⟩
  cases stop with
  | true => exact absurd rfl hstop.2
  | false =>
    refine (Prog.safe_bind _ _ _ _).mpr ((safe_handled _ message _).mono fun h' r hh => ?_)
    cases r with
    | error e => exact fun go hgo => by cases hgo
    | ok u => exact fun go hgo => ⟨(Except.ok.inj hgo).symm, hh⟩

theorem safe_serve {batch : List PulledMessage}
    (hb : pulled parse config.requestSubscription (.ok result) = .ok batch) :
    (pull parse config config.requestSubscription 1 >>= handleBatch config).Safe
      (fun _ e => Gets result e ∧ e ≠ .stopRequested true) (fun _ _ => True)
      (fun h r => r = .ok () → ∀ message ∈ batch, Handled config message h) [] := by
  rw [Prog.safe_bind, safe_pull]
  intro answer ha
  refine ⟨trivial, ?_⟩
  rw [ha.1 _ _ _ _ rfl, hb]
  exact safe_handleBatch batch _

/-! ## The dispatcher -/

def Completed (message : PulledMessage) (h : List Event) : Prop :=
  ∀ id, message.attributes.lookup correlationIdAttribute = some id →
    ∃ found, .pending (.completed id message.data found) ∈ h

theorem completed_cons (message : PulledMessage) (h : List Event) (e : Event) (hh : Completed message h) :
    Completed message (e :: h) := fun id hid => (hh id hid).imp fun _ hm => List.mem_cons_of_mem _ hm

def FailsNone (e : Event) : Prop :=
  ∀ event, e = .pending event → ∀ id error, PendingReplies.finishFor id event ≠ some (.threw error)

theorem failsNone_completed (id : Text) (payload : Bytes) (found : Bool) :
    FailsNone (.pending (.completed id payload found)) := by
  intro event heq id' error
  cases heq
  simp only [PendingReplies.finishFor]
  split <;> simp

theorem safe_completeBatch (batch : List PulledMessage) (h : List Event) :
    (completeBatch batch).Safe (fun _ e => Gets result e) (fun _ e => FailsNone e)
      (fun h' r => r = .ok () → ∀ message ∈ batch, Completed message h') h := by
  refine Prog.safe_forEach_each completed_cons batch (fun message _ h => ?_) h
  unfold completeReply complete
  split
  · rename_i id hid
    simp only [Prog.safe_bind, Prog.safe_emit, Prog.andThen_ok]
    refine fun found _ => ⟨failsNone_completed id message.data found, fun go hgo => ⟨(Except.ok.inj hgo).symm, ?_⟩⟩
    intro id' hid'
    rw [hid] at hid'
    cases hid'
    exact ⟨found, List.mem_cons_self⟩
  · rename_i hid
    refine fun go hgo => ⟨(Except.ok.inj hgo).symm, fun id hid' => ?_⟩
    rw [hid] at hid'
    cases hid'

/-- A batch is acknowledged and completed, and nobody is failed. -/
theorem safe_dispatchBatch {batch : List PulledMessage}
    (hb : pulled parse config.replySubscription (.ok result) = .ok batch) :
    (dispatchBatch parse config).Safe (fun _ e => Gets result e) (fun _ e => FailsNone e)
      (fun h r => r = .ok () → ∀ message ∈ batch, Completed message h) [] := by
  unfold dispatchBatch
  rw [Prog.safe_bind, Prog.safe_tryCatch, safe_pull]
  intro answer ha
  refine ⟨nofun, ?_⟩
  rw [ha _ _ _ _ rfl, hb, Prog.orElse_ok, Prog.andThen_ok, Prog.safe_bind]
  unfold acknowledgeBatch
  rw [Prog.safe_bind, Prog.safe_attempt]
  cases (batch.map PulledMessage.ackId).filter (!·.isEmpty) with
  | nil => exact safe_completeBatch batch _
  | cons ackId ackIds =>
    rw [safe_acknowledge]
    refine fun answer' _ => ⟨nofun, ?_⟩
    cases checked ("Acknowledge ".toList ++ config.replySubscription) answer' with
    | ok u => exact safe_completeBatch batch _
    | error e =>
      rw [Prog.attempted_error]
      split
      · exact safe_completeBatch batch _
      · exact fun hr => by cases hr

/-- What a poisoned batch does: it fails every call that waits. -/
theorem dispatchBatch_poisoned {what : Text}
    (hb : pulled parse config.replySubscription (.ok result) = .error (.exn (.std what))) :
    (dispatchBatch parse config).Runs
      [.request (pullRequest config config.replySubscription config.maxMessages) (.ok result),
        .pending (.failedAll (cString what))] (.done ()) := by
  refine Prog.runs_ask.2 ⟨.ok result, rfl, ?_⟩
  simp only [Prog.bind, hb]
  refine Prog.runs_ask.2 ⟨(), rfl, ?_⟩
  exact ⟨rfl, rfl⟩

/-! ## Exactly when nobody is blocked -/

theorem exists_uncarried (items : List Json) : ∃ id, ∀ item ∈ items, correlationIdIn item ≠ some id := by
  obtain ⟨id, hid⟩ := Infinite.exists_notMem_finset (items.filterMap correlationIdIn).toFinset
  refine ⟨id, fun item hm heq => hid ?_⟩
  exact List.mem_toFinset.2 (List.mem_filterMap.2 ⟨item, hm, heq⟩)

end Batch

/-- **A poisoned batch**: the elements of a response that are well formed are delivered, handled and completed, and
nobody else's call fails, exactly when every element of it decodes. -/
theorem unblocked_iff (parse : Text → Option Json) (config : PubSubConfig) (result : HttpResult) (items : List Json)
    (hc : Carried parse result items) :
    Unblocked parse config result items ↔ ∀ item ∈ items, item.isObject = true → Decodes item := by
  constructor
  · intro hu item hm ho
    by_contra hd
    obtain ⟨what, hb⟩ := hc.pulled_error config.replySubscription hm ho hd
    obtain ⟨id, hid⟩ := exists_uncarried items
    have hgets : ∀ e ∈ [Event.request (pullRequest config config.replySubscription config.maxMessages) (.ok result),
        .pending (.failedAll (cString what))], Gets result e := by
      intro e he config' subscription n answer heq
      subst heq
      simp only [List.mem_cons, Event.request.injEq, reduceCtorEq, List.not_mem_nil, or_false] at he
      exact he.2
    exact hu.unfailed _ _ (dispatchBatch_poisoned hb) hgets id (fun item' hm' _ _ => hid item' hm')
      (.failedAll (cString what)) (cString what) (by simp) rfl
  · intro hall
    have hbatch := fun subscription => (hc.pulled_ok_iff subscription).2 hall
    refine ⟨?_, ?_, ?_, ?_⟩
    · intro subscription item message hm ho hi
      obtain ⟨batch, hb⟩ := hbatch subscription
      exact ⟨batch, hb, hc.mem_batch hb hm ho hi⟩
    · intro t hr hg hs item message hm ho hi ha
      obtain ⟨batch, hb⟩ := hbatch config.requestSubscription
      have hR : Prog.Admits (fun _ e => Gets result e ∧ e ≠ .stopRequested true) [] t :=
        Prog.admits_of_mem [] fun e he => ⟨hg e he, fun heq => hs (heq ▸ he)⟩
      obtain ⟨writes, r, hp⟩ := (safe_serve hb).post hr hR rfl message (hc.mem_batch hb hm ho hi) ha
      exact ⟨writes, r, by simpa using hp⟩
    · intro t hr hg item message hm ho hi id hid
      obtain ⟨batch, hb⟩ := hbatch config.replySubscription
      have hR := Prog.admits_of_mem [] hg
      obtain ⟨found, hp⟩ := (safe_dispatchBatch hb).post hr hR rfl message (hc.mem_batch hb hm ho hi) id hid
      exact ⟨found, by simpa using hp⟩
    · intro t o hr hg id _ event error he
      obtain ⟨batch, hb⟩ := hbatch config.replySubscription
      have hG := (safe_dispatchBatch hb).admits hr (Prog.admits_of_mem [] hg)
      obtain ⟨pre, post, rfl⟩ := List.append_of_mem he
      exact (Prog.admits_iff _ _ _).1 hG pre _ post rfl event rfl id error

def goodReply : Json :=
  .object [("ackId".toList, .string "1".toList), ("message".toList, .object [("data".toList, .string "CA==".toList),
    ("attributes".toList, .ofStrings [(correlationIdAttribute, ['c'])])])]

def otherReply : Json :=
  .object [("ackId".toList, .string "3".toList), ("message".toList, .object [("data".toList, .string "CQo=".toList),
    ("attributes".toList, .ofStrings [(correlationIdAttribute, ['e'])])])]

def badReply : Json :=
  .object [("ackId".toList, .string "2".toList), ("message".toList, .object [("data".toList, .string "!".toList),
    ("attributes".toList, .ofStrings [(correlationIdAttribute, ['d'])])])]

def parsesTo (items : List Json) (_ : Text) : Option Json := some (.object [("receivedMessages".toList, .array items)])

def pulledResult : HttpResult := { status := 200, body := ['b'] }

def pullConfig : PubSubConfig := { projectId := ['p'], requestTopic := "requests".toList }

theorem carried_parsesTo (items : List Json) : Carried (parsesTo items) pulledResult items :=
  ⟨by decide, rfl, rfl⟩

/-- Two replies, and between them something that is no message. -/
theorem unblocked_iff_goodReplies : Unblocked (parsesTo [goodReply, .string "x".toList, otherReply]) pullConfig pulledResult
    [goodReply, .string "x".toList, otherReply] := by
  refine (unblocked_iff _ _ _ _ (carried_parsesTo [goodReply, .string "x".toList, otherReply])).2 fun item hm ho => ?_
  simp only [List.mem_cons, List.not_mem_nil, or_false] at hm
  rcases hm with rfl | rfl | rfl
  · exact (decodes_iff goodReply).2 ⟨⟨"1".toList, [8], [(correlationIdAttribute, ['c'])]⟩, rfl⟩
  · cases ho
  · exact (decodes_iff otherReply).2 ⟨⟨"3".toList, [9, 10], [(correlationIdAttribute, ['e'])]⟩, rfl⟩

/-- The reply to `c` is lost with the one to `d`. -/
theorem not_unblocked_badReply : ¬Unblocked (parsesTo [goodReply, badReply]) pullConfig pulledResult
    [goodReply, badReply] := by
  intro hu
  obtain ⟨batch, hb, -⟩ := hu.pulled [] goodReply _ (by simp) rfl rfl
  cases hb

end PubSub
end Graftcode
