import Graftcode.PendingDelivery
/-!
# LinkClient — the RabbitMQ and Service Bus clients

`RabbitMqRpcClient` and `ServiceBusRpcClient`: any number of threads in `Call`, the links they share, and one reply
dispatcher a link (`Link::Run`, `Link::DispatchReplies`).  All links of a client share its one `pending_`.

A `shared_ptr<Link>` held by a `Call` is an entry of `owners`; the client's own is `link_`.  The last owner to let go
runs `~Link`, which sets `stopping_` and joins the dispatcher.  `CurrentLink` does so under `linkMutex_`, as does the
constructor of the next link: `Linking` says who is inside, and at what.  A ticket lives where its `Call` does.

`amqpMutex_` and `sendMutex_` are left out, which only adds interleavings.
-/
namespace Graftcode
namespace LinkClient

open PendingReplies (WaitResult)

abbrev LinkRef := Nat

abbrev CallId := Nat

/-- Which client; the queue is in the text of one RabbitMQ error. -/
inductive Plugin where
  | rabbitMq (queue_ : Text)
  | serviceBus
  deriving DecidableEq, Repr

/-- The dispatcher thread: `disconnecting` is inside `Disconnect`, after the flag and before `FailAll`.  RabbitMQ also
calls it from a callback (`inParse`), and then goes on with the loop. -/
inductive Dispatcher where
  | running
  | disconnecting (error : Text) (inParse : Bool)
  | exited
  deriving DecidableEq, Repr

structure Link where
  broken_      : Bool := false
  brokenError_ : Text := []
  stopping_    : Bool := false
  dispatcher_  : Dispatcher := .running
  owners       : List CallId := []
  deriving DecidableEq, Repr

/-- Where a `Call` is. -/
inductive Call where
  | idle
  | obtained (link : LinkRef)
  | registered (link : LinkRef)
  | publishing (link : LinkRef)
  | published (link : LinkRef)
  | waited (link : LinkRef)
  | failed (link : LinkRef)
  | unwinding (link : LinkRef)
  | joining (link : LinkRef)
  | ended
  deriving DecidableEq, Repr

def Call.link : Call → Option LinkRef
  | obtained l | registered l | publishing l | published l | waited l | failed l | unwinding l => some l
  | idle | joining _ | ended => none

def Call.ticketed : Call → Bool
  | registered _ | publishing _ | published _ | waited _ | failed _ => true
  | _ => false

/-- Is the `Call` past its `Publish` or `Send`, its ticket still there? -/
def Call.pastPublish (l : LinkRef) (call : Call) : Prop := call = .published l ∨ call = .waited l

/-- Who is inside `CurrentLink`: waiting for the dispatcher of the link it let go, in the constructor of the next, or
waiting for the dispatcher of the one that failed to come up. -/
inductive Linking where
  | free
  | resetting (call : CallId) (old : Option LinkRef)
  | constructing (call : CallId) (link : LinkRef)
  | aborting (call : CallId) (link : LinkRef)
  deriving DecidableEq, Repr

structure State where
  pending_ : PendingReplies.State CallId
  links    : LinkRef → Link
  made     : Nat
  link_    : Option LinkRef
  linking  : Linking
  calls    : CallId → Call

def State.init : State := ⟨.init, fun _ => {}, 0, none, .free, fun _ => .idle⟩

inductive Action where
  | currentLink (c : CallId)
  | construct (c : CallId) (started : Bool)
  | ready (c : CallId) (ok : Bool)
  | aborted (c : CallId)
  | register (c : CallId) (id : Text)
  | publish (c : CallId)
  | transmit (c : CallId) (result : Except Text Bool)
  | send (c : CallId) (result : Except Text Bool)
  | wait (c : CallId)
  | destroyTicket (c : CallId)
  | release (c : CallId)
  | joined (c : CallId)
  | reply (l : LinkRef) (id : Text) (bytes : Bytes)
  | disconnect (l : LinkRef) (error : Text) (inParse : Bool)
  | failAll (l : LinkRef)
  | exit (l : LinkRef)

inductive Event where
  | replacing (c : CallId) (old : Option LinkRef)
  | constructing (c : CallId) (l : LinkRef)
  | notConstructed (c : CallId)
  | obtained (c : CallId) (l : LinkRef)
  | registered (c : CallId) (id : Text)
  | refused (c : CallId) (error : Text)
  | checked (c : CallId)
  | published (c : CallId)
  | publishFailed (c : CallId) (error : Text)
  | waited (c : CallId) (result : WaitResult)
  | ticketDestroyed (c : CallId)
  | released (c : CallId) (l : LinkRef)
  | joined (c : CallId)
  | completed (l : LinkRef) (id : Text) (bytes : Bytes)
  | disconnected (l : LinkRef) (error : Text)
  | failedAll (l : LinkRef) (error : Text)
  | exited (l : LinkRef)
  deriving DecidableEq, Repr

/-! ## `CurrentLink` and the links -/

def State.setCall (s : State) (c : CallId) (call : Call) : State := { s with calls := Function.update s.calls c call }

def State.setLink (s : State) (l : LinkRef) (link : Link) : State := { s with links := Function.update s.links l link }

def Link.add (link : Link) (c : CallId) : Link := { link with owners := c :: link.owners }

def Link.drop (link : Link) (c : CallId) : Link := { link with owners := link.owners.erase c }

def Link.stop (link : Link) : Link := { link with stopping_ := true }

def Link.brokenError (link : Link) : Text :=
  if link.brokenError_.isEmpty then "RabbitMQ: connection is not available".toList else link.brokenError_

section Fields

variable (s : State) (c c' : CallId) (call : Call) (l l' : LinkRef) (link : Link)

@[simp, grind =] theorem setCall_calls : (s.setCall c call).calls c' = if c' = c then call else s.calls c' :=
  Function.update_apply ..
@[simp, grind =] theorem setCall_links : (s.setCall c call).links l = s.links l := rfl
@[simp, grind =] theorem setCall_pending : (s.setCall c call).pending_ = s.pending_ := rfl
@[simp, grind =] theorem setCall_made : (s.setCall c call).made = s.made := rfl
@[simp, grind =] theorem setCall_link : (s.setCall c call).link_ = s.link_ := rfl
@[simp, grind =] theorem setCall_linking : (s.setCall c call).linking = s.linking := rfl

@[simp, grind =] theorem setLink_links : (s.setLink l link).links l' = if l' = l then link else s.links l' :=
  Function.update_apply ..
@[simp, grind =] theorem setLink_calls : (s.setLink l link).calls c = s.calls c := rfl
@[simp, grind =] theorem setLink_pending : (s.setLink l link).pending_ = s.pending_ := rfl
@[simp, grind =] theorem setLink_made : (s.setLink l link).made = s.made := rfl
@[simp, grind =] theorem setLink_link : (s.setLink l link).link_ = s.link_ := rfl
@[simp, grind =] theorem setLink_linking : (s.setLink l link).linking = s.linking := rfl

end Fields

def State.obtain (s : State) (c : CallId) (l : LinkRef) : State :=
  (s.setLink l ((s.links l).add c)).setCall c (.obtained l)

@[simp, grind =] theorem obtain_calls (s : State) (c c' : CallId) (l : LinkRef) :
    (s.obtain c l).calls c' = if c' = c then .obtained l else s.calls c' := setCall_calls ..
@[simp, grind =] theorem obtain_links (s : State) (c : CallId) (l l' : LinkRef) :
    (s.obtain c l).links l' = if l' = l then (s.links l).add c else s.links l' := setLink_links ..
@[simp, grind =] theorem obtain_pending (s : State) (c : CallId) (l : LinkRef) :
    (s.obtain c l).pending_ = s.pending_ := rfl
@[simp, grind =] theorem obtain_made (s : State) (c : CallId) (l : LinkRef) : (s.obtain c l).made = s.made := rfl
@[simp, grind =] theorem obtain_link (s : State) (c : CallId) (l : LinkRef) : (s.obtain c l).link_ = s.link_ := rfl
@[simp, grind =] theorem obtain_linking (s : State) (c : CallId) (l : LinkRef) :
    (s.obtain c l).linking = s.linking := rfl

/-- `link_.reset()` on a broken link: the last owner runs `~Link`. -/
def State.resetLink (s : State) (c : CallId) (l : LinkRef) : State :=
  if (s.links l).owners.isEmpty then
    { s.setLink l (s.links l).stop with link_ := none, linking := .resetting c (some l) }
  else { s with link_ := none, linking := .resetting c none }

def State.currentLink (s : State) (c : CallId) : State × Event :=
  match s.link_ with
  | none   => ({ s with linking := .resetting c none }, .replacing c none)
  | some l =>
    if (s.links l).broken_ then (s.resetLink c l, .replacing c (some l)) else (s.obtain c l, .obtained c l)

/-- The thread that ran `~Link` is past its `join`. -/
def State.exited (s : State) (l : LinkRef) : Bool := (s.links l).dispatcher_ == .exited

/-- `std::make_shared<Link>`, up to the start of the dispatcher thread or to a throw before it. -/
def State.construct (s : State) (c : CallId) (started : Bool) : State × Event :=
  if started then
    ({ s.setLink s.made {} with made := s.made + 1, linking := .constructing c s.made }, .constructing c s.made)
  else ({ s.setCall c .ended with linking := .free }, .notConstructed c)

def State.release (s : State) (c : CallId) (l : LinkRef) : State :=
  let link := (s.links l).drop c
  if link.owners.isEmpty ∧ s.link_ ≠ some l then (s.setLink l link.stop).setCall c (.joining l)
  else (s.setLink l link).setCall c .ended

/-! ## `Publish` and `Send` -/

/-- `Publish` up to the check of `broken_`. -/
def State.publish (s : State) (c : CallId) (l : LinkRef) : State × Event :=
  if (s.links l).broken_ then (s.setCall c (.failed l), .publishFailed c (s.links l).brokenError)
  else (s.setCall c (.publishing l), .checked c)

/-- `channel_->publish`; what it throws leaves `Publish` as it is. -/
def State.transmit (s : State) (c : CallId) (l : LinkRef) (queue_ : Text) : Except Text Bool → State × Event
  | .ok true    => (s.setCall c (.published l), .published c)
  | .ok false   =>
    (s.setCall c (.failed l), .publishFailed c ("RabbitMQ: failed to publish request to queue ".toList ++ queue_))
  | .error what => (s.setCall c (.failed l), .publishFailed c what)

/-- `sender_->Send`; only a send that says so has failed breaks the link, one that throws does not. -/
def State.send (s : State) (c : CallId) (l : LinkRef) : Except Text Bool → State × Event
  | .ok true    => (s.setCall c (.published l), .published c)
  | .ok false   =>
    ((s.setLink l { s.links l with broken_ := true }).setCall c (.failed l),
      .publishFailed c "failed to send Service Bus message".toList)
  | .error what => (s.setCall c (.failed l), .publishFailed c what)

/-! ## The dispatcher -/

def Link.disconnect (k : Plugin) (link : Link) (error : Text) (inParse : Bool) : Link :=
  { link with
    broken_ := true
    brokenError_ := if k = .serviceBus ∨ !link.brokenError_.isEmpty then link.brokenError_ else error
    dispatcher_ := .disconnecting error inParse }

/-- RabbitMQ's `Run` looks at `broken_` before each turn, and only it disconnects from within a turn's `parse`. -/
def Link.mayDisconnect (k : Plugin) (link : Link) (inParse : Bool) : Bool :=
  link.dispatcher_ == .running && (if k = .serviceBus then !inParse else inParse || !link.broken_)

def Link.mayExit (k : Plugin) (link : Link) : Bool :=
  link.dispatcher_ == .running && (link.stopping_ || (k != .serviceBus && link.broken_))

/-! ## One step of a thread -/

def step (k : Plugin) (s : State) : Action → Option (State × Event)
  | .currentLink c => if s.calls c = .idle ∧ s.linking = .free then some (s.currentLink c) else none
  | .construct c started =>
    match s.linking with
    | .resetting c' old => if c = c' ∧ old.all s.exited then some (s.construct c started) else none
    | _ => none
  | .ready c ok =>
    match s.linking with
    | .constructing c' l =>
      if c ≠ c' then none
      else if ok then some ({ s.obtain c l with link_ := some l, linking := .free }, .obtained c l)
      else if k = .serviceBus then none
      else some ({ s.setLink l (s.links l).stop with linking := .aborting c l }, .notConstructed c)
    | _ => none
  | .aborted c =>
    match s.linking with
    | .aborting c' l =>
      if c = c' ∧ s.exited l then some ({ s.setCall c .ended with linking := .free }, .joined c) else none
    | _ => none
  | .register c id =>
    match s.calls c with
    | .obtained l =>
      match PendingReplies.step s.pending_ (.register c id) with
      | some (p, .registered ..)  => some ({ s.setCall c (.registered l) with pending_ := p }, .registered c id)
      | some (_, .refused _ error) => some (s.setCall c (.unwinding l), .refused c error)
      | _ => none
    | _ => none
  | .publish c =>
    match k, s.calls c with
    | .rabbitMq _, .registered l => some (s.publish c l)
    | _, _ => none
  | .transmit c result =>
    match k, s.calls c with
    | .rabbitMq queue_, .publishing l => some (s.transmit c l queue_ result)
    | _, _ => none
  | .send c result =>
    match k, s.calls c with
    | .serviceBus, .registered l => some (s.send c l result)
    | _, _ => none
  | .wait c =>
    match s.calls c with
    | .published l =>
      match PendingReplies.step s.pending_ (.wait c) with
      | some (p, .waited _ result) => some ({ s.setCall c (.waited l) with pending_ := p }, .waited c result)
      | _ => none
    | _ => none
  | .destroyTicket c =>
    match s.calls c with
    | .waited l | .failed l =>
      match PendingReplies.step s.pending_ (.destroy c) with
      | some (p, _) => some ({ s.setCall c (.unwinding l) with pending_ := p }, .ticketDestroyed c)
      | none => none
    | _ => none
  | .release c =>
    match s.calls c with
    | .unwinding l => some (s.release c l, .released c l)
    | _ => none
  | .joined c =>
    match s.calls c with
    | .joining l => if s.exited l then some (s.setCall c .ended, .joined c) else none
    | _ => none
  | .reply l id bytes =>
    if l < s.made ∧ (s.links l).dispatcher_ = .running then
      match PendingReplies.step s.pending_ (.complete id bytes) with
      | some (p, _) => some ({ s with pending_ := p }, .completed l id bytes)
      | none => none
    else none
  | .disconnect l error inParse =>
    if l < s.made ∧ (s.links l).mayDisconnect k inParse then
      some (s.setLink l ((s.links l).disconnect k error inParse), .disconnected l error)
    else none
  | .failAll l =>
    match (s.links l).dispatcher_ with
    | .disconnecting error inParse =>
      match PendingReplies.step s.pending_ (.failAll error) with
      | some (p, _) =>
        let next := if inParse then .running else .exited
        some ({ s.setLink l { s.links l with dispatcher_ := next } with pending_ := p }, .failedAll l error)
      | none => none
    | _ => none
  | .exit l =>
    if l < s.made ∧ (s.links l).mayExit k then
      some (s.setLink l { s.links l with dispatcher_ := .exited }, .exited l)
    else none

/-! ## What a step can do -/

/-- A step, by what it found and what it left. -/
inductive Moved (k : Plugin) (s : State) : State → Event → Prop where
  | noLink (c : CallId) : s.calls c = .idle → s.linking = .free → s.link_ = none →
      Moved k s { s with linking := .resetting c none } (.replacing c none)
  | brokenLink (c : CallId) (l : LinkRef) : s.calls c = .idle → s.linking = .free → s.link_ = some l →
      (s.links l).broken_ = true → Moved k s (s.resetLink c l) (.replacing c (some l))
  | sameLink (c : CallId) (l : LinkRef) : s.calls c = .idle → s.linking = .free → s.link_ = some l →
      (s.links l).broken_ = false → Moved k s (s.obtain c l) (.obtained c l)
  | constructing (c : CallId) (old : Option LinkRef) : s.linking = .resetting c old → old.all s.exited = true →
      Moved k s { s.setLink s.made {} with made := s.made + 1, linking := .constructing c s.made }
        (.constructing c s.made)
  | notConstructed (c : CallId) (old : Option LinkRef) : s.linking = .resetting c old → old.all s.exited = true →
      Moved k s { s.setCall c .ended with linking := .free } (.notConstructed c)
  | ready (c : CallId) (l : LinkRef) : s.linking = .constructing c l →
      Moved k s { s.obtain c l with link_ := some l, linking := .free } (.obtained c l)
  | notReady (c : CallId) (l : LinkRef) : s.linking = .constructing c l →
      Moved k s { s.setLink l (s.links l).stop with linking := .aborting c l } (.notConstructed c)
  | aborted (c : CallId) (l : LinkRef) : s.linking = .aborting c l → s.exited l = true →
      Moved k s { s.setCall c .ended with linking := .free } (.joined c)
  | registered (c : CallId) (l : LinkRef) (id : Text) (slot : PendingReplies.SlotRef) (p : PendingReplies.State CallId) :
      s.calls c = .obtained l → PendingReplies.step s.pending_ (.register c id) = some (p, .registered id slot) →
      Moved k s { s.setCall c (.registered l) with pending_ := p } (.registered c id)
  | refused (c : CallId) (l : LinkRef) (error : Text) : s.calls c = .obtained l →
      Moved k s (s.setCall c (.unwinding l)) (.refused c error)
  | checked (c : CallId) (l : LinkRef) : s.calls c = .registered l → (s.links l).broken_ = false →
      Moved k s (s.setCall c (.publishing l)) (.checked c)
  | transmitted (c : CallId) (l : LinkRef) : k ≠ .serviceBus → s.calls c = .publishing l →
      Moved k s (s.setCall c (.published l)) (.published c)
  | sent (c : CallId) (l : LinkRef) : k = .serviceBus → s.calls c = .registered l →
      Moved k s (s.setCall c (.published l)) (.published c)
  | publishFailed (c : CallId) (l : LinkRef) (error : Text) :
      s.calls c = .registered l ∨ s.calls c = .publishing l →
      Moved k s (s.setCall c (.failed l)) (.publishFailed c error)
  | sendFailed (c : CallId) (l : LinkRef) (error : Text) : k = .serviceBus → s.calls c = .registered l →
      Moved k s ((s.setLink l { s.links l with broken_ := true }).setCall c (.failed l)) (.publishFailed c error)
  | waited (c : CallId) (l : LinkRef) (slot : PendingReplies.SlotRef) (result : WaitResult)
      (p : PendingReplies.State CallId) : s.calls c = .published l →
      PendingReplies.step s.pending_ (.wait c) = some (p, .waited slot result) →
      Moved k s { s.setCall c (.waited l) with pending_ := p } (.waited c result)
  | ticketDestroyed (c : CallId) (l : LinkRef) (p : PendingReplies.State CallId) (e : PendingReplies.Event) :
      s.calls c = .waited l ∨ s.calls c = .failed l →
      PendingReplies.step s.pending_ (.destroy c) = some (p, e) →
      Moved k s { s.setCall c (.unwinding l) with pending_ := p } (.ticketDestroyed c)
  | released (c : CallId) (l : LinkRef) : s.calls c = .unwinding l → Moved k s (s.release c l) (.released c l)
  | joined (c : CallId) (l : LinkRef) : s.calls c = .joining l → s.exited l = true →
      Moved k s (s.setCall c .ended) (.joined c)
  | completed (l : LinkRef) (id : Text) (bytes : Bytes) (p : PendingReplies.State CallId) (e : PendingReplies.Event) :
      l < s.made → (s.links l).dispatcher_ = .running →
      PendingReplies.step s.pending_ (.complete id bytes) = some (p, e) →
      Moved k s { s with pending_ := p } (.completed l id bytes)
  | disconnected (l : LinkRef) (error : Text) (inParse : Bool) : l < s.made →
      (s.links l).mayDisconnect k inParse = true →
      Moved k s (s.setLink l ((s.links l).disconnect k error inParse)) (.disconnected l error)
  | failedAll (l : LinkRef) (error : Text) (inParse : Bool) (p : PendingReplies.State CallId)
      (e : PendingReplies.Event) : (s.links l).dispatcher_ = .disconnecting error inParse →
      PendingReplies.step s.pending_ (.failAll error) = some (p, e) →
      Moved k s { s.setLink l { s.links l with dispatcher_ := if inParse then .running else .exited } with
        pending_ := p } (.failedAll l error)
  | exited (l : LinkRef) : l < s.made → (s.links l).mayExit k = true →
      Moved k s (s.setLink l { s.links l with dispatcher_ := .exited }) (.exited l)

/-- **Every step is one of these moves.** -/
theorem moved_of_step {k : Plugin} {s s' : State} {a : Action} {e : Event} (hs : step k s a = some (s', e)) :
    Moved k s s' e := by
  cases a with
  | currentLink c =>
    simp only [step] at hs
    split at hs
    · rename_i h
      unfold State.currentLink at hs
      split at hs
      · rename_i hl; cases hs; exact .noLink c h.1 h.2 hl
      · rename_i l hl
        split at hs
        · rename_i hb; cases hs; exact .brokenLink c l h.1 h.2 hl hb
        · rename_i hb; cases hs; exact .sameLink c l h.1 h.2 hl (by simpa using hb)
    · cases hs
  | construct c started =>
    simp only [step] at hs
    split at hs
    · rename_i c' old hl
      split at hs
      · rename_i h
        obtain ⟨rfl, ho⟩ := h
        unfold State.construct at hs
        split at hs
        · cases hs; exact .constructing c old hl ho
        · cases hs; exact .notConstructed c old hl ho
      · cases hs
    · cases hs
  | ready c ok =>
    simp only [step] at hs
    split at hs
    · rename_i c' l hl
      split at hs
      · cases hs
      rename_i hc
      have hc : c = c' := by simpa using hc
      subst hc
      split at hs
      · cases hs; exact .ready c l hl
      split at hs
      · cases hs
      · cases hs; exact .notReady c l hl
    · cases hs
  | aborted c =>
    simp only [step] at hs
    split at hs
    · rename_i c' l hl
      split at hs
      · rename_i h
        obtain ⟨rfl, he⟩ := h
        cases hs
        exact .aborted c l hl he
      · cases hs
    · cases hs
  | register c id =>
    simp only [step] at hs
    split at hs
    · rename_i l hl
      split at hs
      · rename_i p i slot hp
        cases hs
        have hi : i = id := by
          simp only [PendingReplies.step] at hp
          split at hp
          · cases hp
          · split at hp
            · cases hp
            · cases hp; rfl
        subst hi
        exact .registered c l i slot p hl hp
      · cases hs; exact .refused c l _ hl
      · cases hs
    · cases hs
  | publish c =>
    simp only [step] at hs
    split at hs
    · rename_i l hl
      unfold State.publish at hs
      split at hs
      · cases hs; exact .publishFailed c l _ (Or.inl hl)
      · rename_i hb; cases hs; exact .checked c l hl (by simpa using hb)
    · cases hs
  | transmit c result =>
    simp only [step] at hs
    split at hs
    · rename_i q l hl
      unfold State.transmit at hs
      split at hs
      · cases hs; exact .transmitted c l (by simp) hl
      · cases hs; exact .publishFailed c l _ (Or.inr hl)
      · cases hs; exact .publishFailed c l _ (Or.inr hl)
    · cases hs
  | send c result =>
    simp only [step] at hs
    split at hs
    · rename_i l hl
      unfold State.send at hs
      split at hs
      · cases hs; exact .sent c l rfl hl
      · cases hs; exact .sendFailed c l _ rfl hl
      · cases hs; exact .publishFailed c l _ (Or.inl hl)
    · cases hs
  | wait c =>
    simp only [step] at hs
    split at hs
    · rename_i l hl
      split at hs
      · rename_i p slot result hp
        cases hs
        exact .waited c l slot result p hl hp
      · cases hs
    · cases hs
  | destroyTicket c =>
    have hd : ∀ l, s.calls c = .waited l ∨ s.calls c = .failed l →
        (match PendingReplies.step s.pending_ (.destroy c) with
          | some (p, _) => some ({ s.setCall c (.unwinding l) with pending_ := p }, Event.ticketDestroyed c)
          | none => none) = some (s', e) → Moved k s s' e := by
      intro l hl hs
      split at hs
      · rename_i p e' hp; cases hs; exact .ticketDestroyed c l p e' hl hp
      · cases hs
    simp only [step] at hs
    split at hs
    · rename_i l hl; exact hd l (Or.inl hl) hs
    · rename_i l hl; exact hd l (Or.inr hl) hs
    · cases hs
  | release c =>
    simp only [step] at hs
    split at hs
    · rename_i l hl; cases hs; exact .released c l hl
    · cases hs
  | joined c =>
    simp only [step] at hs
    split at hs
    · rename_i l hl
      split at hs
      · rename_i he; cases hs; exact .joined c l hl he
      · cases hs
    · cases hs
  | reply l id bytes =>
    simp only [step] at hs
    split at hs
    · rename_i h
      split at hs
      · rename_i p e' hp; cases hs; exact .completed l id bytes p e' h.1 h.2 hp
      · cases hs
    · cases hs
  | disconnect l error inParse =>
    simp only [step] at hs
    split at hs
    · rename_i h; cases hs; exact .disconnected l error inParse h.1 h.2
    · cases hs
  | failAll l =>
    simp only [step] at hs
    split at hs
    · rename_i error inParse hd
      split at hs
      · rename_i p e' hp; cases hs; exact .failedAll l error inParse p e' hd hp
      · cases hs
    · cases hs
  | exit l =>
    simp only [step] at hs
    split at hs
    · rename_i h; cases hs; exact .exited l h.1 h.2
    · cases hs

end LinkClient
end Graftcode
