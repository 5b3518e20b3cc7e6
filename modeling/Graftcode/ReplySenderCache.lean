import Mathlib.Data.List.AList
import Graftcode.ServiceBusServer
/-!
# ReplySenderCache — the senders a Service Bus server keeps for its replies

`ReplySenderCache` of `ServiceBusServer.cpp`: one sender for each reply entity, kept with the time of its last use and
replaced before the broker detaches it for being idle.  Every reading of the clock is an event, as is every call of a
sender; times are nanoseconds.
-/
namespace Graftcode
namespace ServiceBus

open Prog (emit call attempt)

/-- A `MessageSender`, with the entity it was created for. -/
structure Sender where
  replyEntity : Text
  handle : Nat
  deriving DecidableEq, Repr

inductive SenderEvent where
  | now (reading : Int)
  | createMessageSender (replyEntity : Text) (result : Except Exn Nat)
  | openSender (sender : Sender) (result : Except Exn (Option Text))
  | send (sender : Sender) (response : AmqpMessage) (result : Except Exn Bool)
  | close (sender : Sender) (result : Except Exn Unit)

/-- Five minutes. -/
def kReplySenderMaxIdle : Int := 5 * 60 * 10 ^ 9

structure ReplySenderCache where
  senders : AList (fun _ : Text => Sender) := ∅
  lastUsed : AList (fun _ : Text => Int) := ∅

namespace ReplySenderCache

/-- `std::map::emplace`: a key that is there keeps its value. -/
def emplace (replyEntity : Text) (sender : Sender) (senders : AList (fun _ : Text => Sender)) :
    AList (fun _ : Text => Sender) :=
  if replyEntity ∈ senders then senders else senders.insert replyEntity sender

def evict (replyEntity : Text) (cache : ReplySenderCache) : Prog Exn SenderEvent ReplySenderCache :=
  match cache.senders.lookup replyEntity with
  | none        => pure { cache with lastUsed := cache.lastUsed.erase replyEntity }
  | some sender => do
    let _ ← attempt (fun _ => true) (call (SenderEvent.close sender))
    pure { senders := cache.senders.erase replyEntity, lastUsed := cache.lastUsed.erase replyEntity }

/-- The end of `acquire`, from `CreateMessageSender` on; what `Open` or `CreateMessageSender` throws is the answer. -/
def openNew (replyEntity : Text) (cache : ReplySenderCache) :
    Prog Exn SenderEvent (ReplySenderCache × Except Exn (Option Sender)) := do
  let created ← emit (SenderEvent.createMessageSender replyEntity)
  match created with
  | .error e   => pure (cache, .error e)
  | .ok handle =>
    let sender : Sender := ⟨replyEntity, handle⟩
    let openError ← emit (SenderEvent.openSender sender)
    match openError with
    | .error e     => pure (cache, .error e)
    | .ok (some _) => pure (cache, .ok none)
    | .ok none     =>
      let now ← emit SenderEvent.now
      pure ({ senders := emplace replyEntity sender cache.senders, lastUsed := cache.lastUsed.insert replyEntity now },
        .ok (some sender))

def isStale (replyEntity : Text) (cache : ReplySenderCache) : Prog Exn SenderEvent Bool :=
  match cache.lastUsed.lookup replyEntity with
  | none      => pure true
  | some used => do
    let now ← emit SenderEvent.now
    pure (decide (kReplySenderMaxIdle < now - used))

def acquire (replyEntity : Text) (cache : ReplySenderCache) :
    Prog Exn SenderEvent (ReplySenderCache × Except Exn (Option Sender)) :=
  match cache.senders.lookup replyEntity with
  | none        => openNew replyEntity cache
  | some sender => do
    let stale ← isStale replyEntity cache
    if !stale then pure (cache, .ok (some sender))
    else
      let cache ← evict replyEntity cache
      openNew replyEntity cache

/-- The attempts that are left of `publish`. -/
def attempts (replyEntity : Text) (response : AmqpMessage) :
    Nat → ReplySenderCache → Prog Exn SenderEvent (ReplySenderCache × Except Exn Bool)
  | 0, cache     => pure (cache, .ok false)
  | n + 1, cache => do
    let (cache, acquired) ← acquire replyEntity cache
    match acquired with
    | .error e          => pure (cache, .error e)
    | .ok none          => pure (cache, .ok false)
    | .ok (some sender) =>
      let sent ← attempt (fun _ => true) (call (SenderEvent.send sender response))
      if sent == some true then
        let now ← emit SenderEvent.now
        pure ({ cache with lastUsed := cache.lastUsed.insert replyEntity now }, .ok true)
      else
        let cache ← evict replyEntity cache
        attempts replyEntity response n cache

/-- A reply, as the server hands it to the cache. -/
structure Reply where
  replyEntity : Text
  responseBytes : Bytes
  correlationId : AmqpValue
  replySessionId : Option Text

def Reply.message (reply : Reply) : AmqpMessage where
  body := .data [reply.responseBytes]
  correlationId := reply.correlationId
  groupId := reply.replySessionId
  contentType := some "application/octet-stream".toList

/-- What `publish` leaves of the cache, and what it returns or throws. -/
def publish (reply : Reply) (cache : ReplySenderCache) :
    Prog Exn SenderEvent (ReplySenderCache × Except Exn Bool) := attempts reply.replyEntity reply.message 2 cache

/-! ## Uses of a sender -/

/-- The reading that follows an opening or a successful send of the sender. -/
def usedAt (sender : Sender) : SenderEvent → List SenderEvent → Option Int
  | .now reading, .openSender s (.ok none) :: _ => if s = sender then some reading else none
  | .now reading, .send s _ (.ok true) :: _     => if s = sender then some reading else none
  | _, _                                        => none

/-- When the sender was last used, by a history (latest event first). -/
def lastUse (sender : Sender) : List SenderEvent → Option Int
  | []     => none
  | e :: h => (usedAt sender e h).or (lastUse sender h)

def lastReading : List SenderEvent → Option Int
  | []                => none
  | .now reading :: _ => some reading
  | _ :: h            => lastReading h

/-- By the latest reading of the clock the sender has not been idle for too long. -/
def NotIdle (h : List SenderEvent) (sender : Sender) : Prop :=
  ∃ now used, lastReading h = some now ∧ lastUse sender h = some used ∧ now - used ≤ kReplySenderMaxIdle

def isSend : SenderEvent → Bool
  | .send .. => true
  | _        => false

/-- The two maps have the same keys. -/
def SameKeys (cache : ReplySenderCache) : Prop := ∀ replyEntity, replyEntity ∈ cache.senders ↔ replyEntity ∈ cache.lastUsed

/-- The histories, latest event first, and caches after any number of calls of `publish`. -/
inductive Reachable : List SenderEvent → ReplySenderCache → Prop
  | empty : Reachable [] {}
  | publish {h t : List SenderEvent} {cache cache' : ReplySenderCache} {reply : Reply} {result : Except Exn Bool}
      (before : Reachable h cache) (run : (publish reply cache).Runs t (.done (cache', result))) :
      Reachable (t.reverse ++ h) cache'

/-! ## The invariant -/

/-- What a cache holds is filed under its own entity with its last use, and no use waits for its reading. -/
structure Inv (h : List SenderEvent) (cache : ReplySenderCache) : Prop where
  keys : SameKeys cache
  entity : ∀ replyEntity sender, cache.senders.lookup replyEntity = some sender → sender.replyEntity = replyEntity
  used : ∀ replyEntity sender, cache.senders.lookup replyEntity = some sender →
    cache.lastUsed.lookup replyEntity = lastUse sender h
  settled : ∀ sender reading, usedAt sender (.now reading) h = none

/-- A send is one of the sends that are left, and not through an idle sender. -/
def Permitted (sends : Nat) (h : List SenderEvent) (e : SenderEvent) : Prop :=
  ∀ sender response result, e = .send sender response result → NotIdle h sender ∧ h.countP isSend < sends

abbrev Any (_h : List SenderEvent) (_e : SenderEvent) : Prop := True

theorem permitted_of_not_send {sends : Nat} {h : List SenderEvent} {e : SenderEvent} (he : isSend e = false) :
    Permitted sends h e := by
  rintro sender response result rfl
  cases he

theorem lastUse_cons {sender : Sender} {e : SenderEvent} {h : List SenderEvent} (he : usedAt sender e h = none) :
    lastUse sender (e :: h) = lastUse sender h := by
  rw [lastUse, he, Option.none_or]

/-- An event that is neither a use nor the reading of one keeps the invariant. -/
theorem Inv.cons {h : List SenderEvent} {cache : ReplySenderCache} (hi : Inv h cache) {e : SenderEvent}
    (hnone : ∀ sender, usedAt sender e h = none)
    (hsettled : ∀ sender reading, usedAt sender (.now reading) (e :: h) = none) :
    Inv (e :: h) cache where
  keys := hi.keys
  entity := hi.entity
  used := by
    intro replyEntity sender hlookup
    rw [hi.used replyEntity sender hlookup, lastUse_cons (hnone sender)]
  settled := hsettled

/-- The sender of an entity is dropped, if there was one. -/
theorem Inv.drop {h : List SenderEvent} {cache : ReplySenderCache} {replyEntity : Text}
    {senders : AList fun _ : Text => Sender} (hi : Inv h cache) (hnone : senders.lookup replyEntity = none)
    (hothers : ∀ other ≠ replyEntity, senders.lookup other = cache.senders.lookup other) :
    Inv h { senders, lastUsed := cache.lastUsed.erase replyEntity } := by
  have hkept : ∀ other sender, senders.lookup other = some sender →
      other ≠ replyEntity ∧ cache.senders.lookup other = some sender := by
    intro other sender hlookup
    have hne : other ≠ replyEntity := by
      rintro rfl
      rw [hnone] at hlookup
      cases hlookup
    exact ⟨hne, hothers other hne ▸ hlookup⟩
  constructor
  · intro other
    by_cases hother : other = replyEntity
    · subst hother
      exact iff_of_false (AList.lookup_eq_none.1 hnone) fun hm => (AList.mem_erase.1 hm).1 rfl
    · rw [AList.mem_erase, and_iff_right hother, ← hi.keys other, ← AList.lookup_isSome, hothers other hother,
        AList.lookup_isSome]
  · intro other sender hlookup
    exact hi.entity other sender (hkept other sender hlookup).2
  · intro other sender hlookup
    obtain ⟨hne, hlookup⟩ := hkept other sender hlookup
    rw [AList.lookup_erase_ne hne]
    exact hi.used other sender hlookup
  · exact hi.settled

/-- A use of a sender, and its reading filed under the sender's entity. -/
theorem Inv.use {h : List SenderEvent} {cache : ReplySenderCache} {e : SenderEvent} {sender : Sender}
    {senders : AList fun _ : Text => Sender} (hi : Inv h cache)
    (huse : ∀ s reading, usedAt s (.now reading) (e :: h) = if sender = s then some reading else none)
    (hplain : ∀ s, usedAt s e h = none) (hsender : senders.lookup sender.replyEntity = some sender)
    (hothers : ∀ other ≠ sender.replyEntity, senders.lookup other = cache.senders.lookup other) (reading : Int) :
    Inv (.now reading :: e :: h) { senders, lastUsed := cache.lastUsed.insert sender.replyEntity reading } ∧
      NotIdle (.now reading :: e :: h) sender := by
  have hlast : lastUse sender (.now reading :: e :: h) = some reading := by
    rw [lastUse, huse, if_pos rfl, Option.some_or]
  refine ⟨⟨?_, ?_, ?_, ?_⟩, reading, reading, rfl, hlast, ?_⟩
  · intro other
    by_cases hother : other = sender.replyEntity
    · subst hother
      exact iff_of_true (AList.lookup_isSome.1 (by rw [hsender, Option.isSome_some])) ((AList.mem_insert _).2 (Or.inl rfl))
    · rw [AList.mem_insert, or_iff_right hother, ← hi.keys other, ← AList.lookup_isSome, hothers other hother,
        AList.lookup_isSome]
  · intro other s hlookup
    by_cases hother : other = sender.replyEntity
    · subst hother
      rw [hsender, Option.some.injEq] at hlookup
      rw [← hlookup]
    · exact hi.entity other s (hothers other hother ▸ hlookup)
  · intro other s hlookup
    by_cases hother : other = sender.replyEntity
    · subst hother
      rw [hsender, Option.some.injEq] at hlookup
      rw [AList.lookup_insert, ← hlookup, hlast]
    · rw [hothers other hother] at hlookup
      have hne : sender ≠ s := by
        rintro rfl
        exact hother (hi.entity other sender hlookup).symm
      rw [AList.lookup_insert_ne hother, hi.used other s hlookup, lastUse, huse, if_neg hne, Option.none_or,
        lastUse_cons (hplain s)]
  · exact fun _ _ => rfl
  · rw [Int.sub_self]
    decide

/-! ## The steps of a call -/

section Steps

variable {h : List SenderEvent} {cache : ReplySenderCache} {replyEntity : Text} {sends : Nat}

/-- The entity has no sender, and no send was made. -/
def Dropped (replyEntity : Text) (h h' : List SenderEvent) (cache : ReplySenderCache) : Prop :=
  Inv h' cache ∧ replyEntity ∉ cache.senders ∧ h'.countP isSend = h.countP isSend

theorem safe_evict (hi : Inv h cache) :
    (evict replyEntity cache).Safe Any (Permitted sends)
      (fun h' r => ∃ cache', r = .ok cache' ∧ Dropped replyEntity h h' cache') h := by
  unfold evict
  split
  · rename_i hnone
    exact ⟨_, rfl, hi.drop hnone fun _ _ => rfl, AList.lookup_eq_none.1 hnone, rfl⟩
  · rename_i sender hsome
    have herased : (cache.senders.erase replyEntity).lookup replyEntity = none := AList.lookup_erase ..
    simp only [Prog.safe_bind, Prog.safe_attempt, Prog.safe_call]
    intro result _
    have hi' : Inv (.close sender result :: h) cache := hi.cons (fun _ => rfl) fun _ _ => rfl
    have hdropped : Dropped replyEntity h (.close sender result :: h)
        { senders := cache.senders.erase replyEntity, lastUsed := cache.lastUsed.erase replyEntity } :=
      ⟨hi'.drop herased fun _ hother => AList.lookup_erase_ne hother, AList.lookup_eq_none.1 herased,
        List.countP_cons_of_neg (by simp [isSend])⟩
    refine ⟨permitted_of_not_send rfl, ?_⟩
    cases result with
    | ok u => exact ⟨_, rfl, hdropped⟩
    | error e => exact ⟨_, rfl, hdropped⟩

/-- What `acquire` owes: a sender that is filed and not idle, or none left; and no send was made. -/
def Acquired (replyEntity : Text) (h h' : List SenderEvent) (cache : ReplySenderCache) :
    Except Exn (Option Sender) → Prop
  | .ok (some sender) => Inv h' cache ∧ cache.senders.lookup replyEntity = some sender ∧ NotIdle h' sender ∧
      h'.countP isSend = h.countP isSend
  | _ => Dropped replyEntity h h' cache

theorem Acquired.since {h₀ h' : List SenderEvent} {acquired : Except Exn (Option Sender)}
    (ha : Acquired replyEntity h h' cache acquired) (hcount : h.countP isSend = h₀.countP isSend) :
    Acquired replyEntity h₀ h' cache acquired := by
  match acquired, ha with
  | .ok (some sender), ⟨hi, hsender, hfresh, hsame⟩ => exact ⟨hi, hsender, hfresh, hsame.trans hcount⟩
  | .ok none, ⟨hi, habsent, hsame⟩ => exact ⟨hi, habsent, hsame.trans hcount⟩
  | .error e, ⟨hi, habsent, hsame⟩ => exact ⟨hi, habsent, hsame.trans hcount⟩

theorem countP_plain {e : SenderEvent} (he : isSend e = false) : (e :: h).countP isSend = h.countP isSend :=
  List.countP_cons_of_neg (by rw [he]; exact Bool.false_ne_true)

theorem safe_openNew (hi : Inv h cache) (habsent : replyEntity ∉ cache.senders) :
    (openNew replyEntity cache).Safe Any (Permitted sends)
      (fun h' r => ∃ cache' acquired, r = .ok (cache', acquired) ∧ Acquired replyEntity h h' cache' acquired) h := by
  unfold openNew
  simp only [Prog.safe_bind, Prog.safe_emit, Prog.andThen_ok]
  intro created _
  have hi₁ : Inv (.createMessageSender replyEntity created :: h) cache := hi.cons (fun _ => rfl) fun _ _ => rfl
  refine ⟨permitted_of_not_send rfl, ?_⟩
  match created with
  | .error e => exact ⟨cache, .error e, rfl, hi₁, habsent, countP_plain rfl⟩
  | .ok handle =>
    simp only [Prog.safe_bind, Prog.safe_emit, Prog.andThen_ok]
    intro openError _
    refine ⟨permitted_of_not_send rfl, ?_⟩
    match openError with
    | .error e =>
      exact ⟨cache, .error e, rfl, hi₁.cons (fun _ => rfl) fun _ _ => rfl, habsent,
        (countP_plain rfl).trans (countP_plain rfl)⟩
    | .ok (some description) =>
      exact ⟨cache, .ok none, rfl, hi₁.cons (fun _ => rfl) fun _ _ => rfl, habsent,
        (countP_plain rfl).trans (countP_plain rfl)⟩
    | .ok none =>
      simp only [Prog.safe_bind, Prog.safe_emit, Prog.andThen_ok]
      intro now _
      have hemplace : emplace replyEntity ⟨replyEntity, handle⟩ cache.senders =
          cache.senders.insert replyEntity ⟨replyEntity, handle⟩ := if_neg habsent
      have hfiled : (emplace replyEntity ⟨replyEntity, handle⟩ cache.senders).lookup replyEntity =
          some ⟨replyEntity, handle⟩ := hemplace ▸ AList.lookup_insert ..
      obtain ⟨hi', hfresh⟩ := Inv.use (e := .openSender ⟨replyEntity, handle⟩ (.ok none)) hi₁ (fun _ _ => rfl)
        (fun _ => rfl) hfiled (fun other hother => hemplace ▸ AList.lookup_insert_ne hother) now
      exact ⟨permitted_of_not_send rfl, _, _, rfl, hi', hfiled, hfresh,
        (countP_plain rfl).trans ((countP_plain rfl).trans (countP_plain rfl))⟩

theorem safe_isStale (hi : Inv h cache) {sender : Sender} (hsender : cache.senders.lookup replyEntity = some sender) :
    (isStale replyEntity cache).Safe Any (Permitted sends) (fun h' r => ∃ stale, r = .ok stale ∧ Inv h' cache ∧
      h'.countP isSend = h.countP isSend ∧ (stale = false → NotIdle h' sender)) h := by
  have hused := hi.used replyEntity sender hsender
  unfold isStale
  split
  · exact ⟨true, rfl, hi, rfl, nofun⟩
  · rename_i used hsome
    simp only [Prog.safe_bind, Prog.safe_emit, Prog.andThen_ok]
    intro now _
    refine ⟨permitted_of_not_send rfl, _, rfl, hi.cons (fun s => hi.settled s now) fun _ _ => rfl, countP_plain rfl, ?_⟩
    intro hstale
    refine ⟨now, used, rfl, ?_, by simpa using hstale⟩
    rw [lastUse_cons (hi.settled sender now), ← hused, hsome]

theorem safe_acquire (hi : Inv h cache) :
    (acquire replyEntity cache).Safe Any (Permitted sends)
      (fun h' r => ∃ cache' acquired, r = .ok (cache', acquired) ∧ Acquired replyEntity h h' cache' acquired) h := by
  unfold acquire
  split
  · rename_i hnone
    exact safe_openNew hi (AList.lookup_eq_none.1 hnone)
  · rename_i sender hsome
    rw [Prog.safe_bind]
    apply (safe_isStale hi hsome).mono
    rintro h₁ _ ⟨stale, rfl, hi₁, hsame, hfresh⟩
    cases stale with
    | false => exact ⟨cache, .ok (some sender), rfl, hi₁, hsome, hfresh rfl, hsame⟩
    | true =>
      rw [Prog.andThen_ok, if_neg (by decide), Prog.safe_bind]
      apply (safe_evict hi₁).mono
      rintro h₂ _ ⟨cache₂, rfl, hi₂, habsent, hsame₂⟩
      apply (safe_openNew hi₂ habsent).mono
      rintro h' _ ⟨cache', acquired, rfl, hacquired⟩
      exact ⟨cache', acquired, rfl, hacquired.since (hsame₂.trans hsame)⟩

/-- What a call owes: the maps in step, and no sender for the entity unless the reply was sent. -/
def Published (replyEntity : Text) (h' : List SenderEvent) (cache : ReplySenderCache) (result : Except Exn Bool) : Prop :=
  Inv h' cache ∧ (result ≠ .ok true → replyEntity ∉ cache.senders)

theorem safe_attempts {response : AmqpMessage} : ∀ {n : Nat} {h : List SenderEvent} {cache : ReplySenderCache},
    Inv h cache → (n = 0 → replyEntity ∉ cache.senders) → h.countP isSend + n ≤ sends →
      (attempts replyEntity response n cache).Safe Any (Permitted sends)
        (fun h' r => ∃ cache' result, r = .ok (cache', result) ∧ Published replyEntity h' cache' result) h
  | 0, h, cache, hi, habsent, _ => ⟨cache, .ok false, rfl, hi, fun _ => habsent rfl⟩
  | n + 1, h, cache, hi, _, hleft => by
    rw [attempts, Prog.safe_bind]
    apply (safe_acquire hi).mono
    rintro h₁ _ ⟨cache₁, acquired, rfl, hacquired⟩
    rw [Prog.andThen_ok]
    match acquired, hacquired with
    | .error e, ⟨hi₁, habsent, _⟩ => exact ⟨cache₁, .error e, rfl, hi₁, fun _ => habsent⟩
    | .ok none, ⟨hi₁, habsent, _⟩ => exact ⟨cache₁, .ok false, rfl, hi₁, fun _ => habsent⟩
    | .ok (some sender), ⟨hi₁, hsender, hfresh, hsame⟩ =>
      simp only [Prog.safe_bind, Prog.safe_attempt, Prog.safe_call]
      intro result _
      have hpermitted : Permitted sends h₁ (.send sender response result) := by
        intro s m r heq
        cases heq
        exact ⟨hfresh, by omega⟩
      have hcount : (SenderEvent.send sender response result :: h₁).countP isSend = h.countP isSend + 1 := by
        rw [List.countP_cons_of_pos (by rfl), hsame]
      have hentity := hi₁.entity replyEntity sender hsender
      refine ⟨hpermitted, ?_⟩
      -- after a send that failed, whichever way, the sender is dropped
      have hretry (hfailed : ∀ s reading, usedAt s (.now reading) (.send sender response result :: h₁) = none) :
          (evict replyEntity cache₁ >>= attempts replyEntity response n).Safe Any (Permitted sends)
            (fun h' r => ∃ cache' result, r = .ok (cache', result) ∧ Published replyEntity h' cache' result)
            (.send sender response result :: h₁) := by
        rw [Prog.safe_bind]
        refine (safe_evict (hi₁.cons (fun _ => rfl) hfailed)).mono ?_
        rintro h₂ _ ⟨cache₂, rfl, hi₂, habsent, hsame₂⟩
        exact safe_attempts hi₂ (fun _ => habsent) (by omega)
      match result with
      | .error e => exact hretry fun _ _ => rfl
      | .ok false => exact hretry fun _ _ => rfl
      | .ok true =>
        intro now _
        refine ⟨permitted_of_not_send rfl, _, _, rfl, ?_, fun hfalse => absurd rfl hfalse⟩
        have hfiled : cache₁.senders.lookup sender.replyEntity = some sender := hentity ▸ hsender
        obtain ⟨hi', -⟩ := Inv.use (e := .send sender response (.ok true)) hi₁ (fun _ _ => rfl) (fun _ => rfl) hfiled
          (fun _ _ => rfl) now
        rw [hentity] at hi'
        exact hi'

end Steps

/-! ## Any number of calls -/

/-- A send is not through an idle sender. -/
def SendsFresh (h : List SenderEvent) (e : SenderEvent) : Prop :=
  ∀ sender response result, e = .send sender response result → NotIdle h sender

theorem safe_publish {h : List SenderEvent} {cache : ReplySenderCache} (hi : Inv h cache) (reply : Reply) :
    (publish reply cache).Safe Any (Permitted (h.countP isSend + 2))
      (fun h' r => ∃ cache' result, r = .ok (cache', result) ∧ Published reply.replyEntity h' cache' result) h :=
  safe_attempts hi nofun le_rfl

theorem Reachable.inv {h : List SenderEvent} {cache : ReplySenderCache} (hr : Reachable h cache) : Inv h cache := by
  induction hr with
  | empty => exact ⟨fun _ => Iff.rfl, nofun, nofun, fun _ _ => rfl⟩
  | @publish h t cache cache' reply result _ hrun ih =>
    obtain ⟨cache'', result', hdone, hi', -⟩ := (safe_publish ih reply).post hrun (Prog.admits_true t h)
    cases hdone
    exact hi'

theorem countP_of_permitted {sends : Nat} : ∀ {t h : List SenderEvent}, Prog.Admits (Permitted sends) h t →
    h.countP isSend ≤ sends → h.countP isSend + t.countP isSend ≤ sends
  | [], h, _, hle => by rw [List.countP_nil]; exact hle
  | e :: t, h, hadmits, hle => by
    have hhead : (e :: h).countP isSend ≤ sends := by
      cases e with
      | send sender response result =>
        obtain ⟨-, hlt⟩ := hadmits.1 sender response result rfl
        rw [List.countP_cons_of_pos (by rfl)]
        omega
      | now | createMessageSender | openSender | close => exact (countP_plain rfl).trans_le hle
    have htail := countP_of_permitted hadmits.2 hhead
    rw [List.countP_cons] at htail ⊢
    omega

/-- **The cache over any calls**: before and after each the two maps have the same keys, a call makes at most two sends,
each through a sender whose last use is recent, and leaves no sender for its entity unless it returns true. -/
theorem publish_sound {h t : List SenderEvent} {cache : ReplySenderCache} {reply : Reply}
    {o : Outcome Exn (ReplySenderCache × Except Exn Bool)} (hr : Reachable h cache)
    (hrun : (publish reply cache).Runs t o) :
    SameKeys cache ∧ Prog.Admits SendsFresh h t ∧ t.countP isSend ≤ 2 ∧
      ∀ cache' result, o = .done (cache', result) → SameKeys cache' ∧
        (result ≠ .ok true → reply.replyEntity ∉ cache'.senders ∧ reply.replyEntity ∉ cache'.lastUsed) := by
  have hsafe := safe_publish hr.inv reply
  have hpermitted := hsafe.admits hrun (Prog.admits_true t h)
  refine ⟨hr.inv.keys, ?_, ?_, ?_⟩
  · rw [Prog.admits_iff] at hpermitted ⊢
    intro pre e post hsplit sender response result he
    exact (hpermitted pre e post hsplit sender response result he).1
  · have hcount := countP_of_permitted hpermitted (Nat.le_add_right ..)
    omega
  · rintro cache' result rfl
    obtain ⟨_, _, hdone, hi', hdropped⟩ := hsafe.post hrun (Prog.admits_true t h)
    cases hdone
    exact ⟨hi'.keys, fun hfailed => ⟨hdropped hfailed, fun hm => hdropped hfailed ((hi'.keys _).2 hm)⟩⟩

def okReply : Reply := ⟨['r'], [1], .string ['a'], none⟩

def firstSender : Sender := ⟨['r'], 0⟩

/-- The history of a first reply, and the cache it leaves. -/
def sentOnce : List SenderEvent :=
  [.createMessageSender ['r'] (.ok 0), .openSender firstSender (.ok none), .now 0,
    .send firstSender okReply.message (.ok true), .now 5]

def cacheSentOnce : ReplySenderCache :=
  { senders := (∅ : AList fun _ : Text => Sender).insert ['r'] firstSender
    lastUsed := ((∅ : AList fun _ : Text => Int).insert ['r'] 0).insert ['r'] 5 }

theorem reachable_sentOnce : Reachable (sentOnce.reverse ++ []) cacheSentOnce := by
  have hrun : (publish okReply {}).Runs sentOnce (.done (cacheSentOnce, .ok true)) := by
    refine Prog.runs_ask.2 ⟨.ok 0, rfl, Prog.runs_ask.2 ⟨.ok none, rfl, Prog.runs_ask.2 ⟨0, rfl, ?_⟩⟩⟩
    exact Prog.runs_ask.2 ⟨.ok true, rfl, Prog.runs_ask.2 ⟨5, rfl, rfl, rfl⟩⟩
  exact .publish .empty hrun

/-- A second reply, whose sender from the cache has been detached and cannot be opened again. -/
def failedTwice : List SenderEvent :=
  [.now 9, .send firstSender okReply.message (.error .unknown), .close firstSender (.ok ()),
    .createMessageSender ['r'] (.ok 1), .openSender ⟨['r'], 1⟩ (.error .unknown)]

theorem publish_sound_failedTwice :
    SameKeys cacheSentOnce ∧ Prog.Admits SendsFresh (sentOnce.reverse ++ []) failedTwice ∧
      failedTwice.countP isSend ≤ 2 ∧ ['r'] ∉ cacheSentOnce.senders.erase ['r'] := by
  have hrun : (publish okReply cacheSentOnce).Runs failedTwice
      (.done ({ senders := cacheSentOnce.senders.erase ['r'], lastUsed := cacheSentOnce.lastUsed.erase ['r'] },
        .error .unknown)) := by
    refine Prog.runs_ask.2 ⟨9, rfl, Prog.runs_ask.2 ⟨.error .unknown, rfl, Prog.runs_ask.2 ⟨.ok (), rfl, ?_⟩⟩⟩
    exact Prog.runs_ask.2 ⟨.ok 1, rfl, Prog.runs_ask.2 ⟨.error .unknown, rfl, rfl, rfl⟩⟩
  obtain ⟨hkeys, hfresh, hsends, hafter⟩ := publish_sound reachable_sentOnce hrun
  exact ⟨hkeys, hfresh, hsends, ((hafter _ _ rfl).2 nofun).1⟩

end ReplySenderCache

end ServiceBus
end Graftcode
