import Graftcode.Framing
import Graftcode.RabbitMqClientLoop
/-!
# RabbitMqChunking — the receive loops hand over the same frames however the stream is cut

AMQP-CPP's `parse` takes whole frames off the front of the buffer it is given.  The loops of the client and of the server
then hand over the frames of the stream, in order, and keep its incomplete rest; and the inner loop ends.
-/
namespace Graftcode

open Prog (emit call iterate Keeps)

/-- A loop that owes its frames and leaves the incomplete rest has, in every run, handed over those of its stream. -/
theorem faithful_of_safe {Ev α : Type} {F : Framing Byte} {feed : Framing.Feed Ev Byte} {p : Prog Exn Ev α}
    {pending : α → Bytes}
    (hsafe : p.Safe (fun _ e => F.Obeys feed e) (fun h e => F.Owes feed h.reverse e) (fun h r => ∀ left, r = .ok left →
      F.Accounts feed h.reverse (pending left) ∧ F.next (pending left) = none) [])
    {t : List Ev} {o : Outcome Exn α} (hr : p.Runs t o) (hobeys : ∀ e ∈ t, F.Obeys feed e) :
    F.Faithful feed t ∧ ∀ left, o = .done left →
      F.handed feed t = F.frames (Framing.received feed t) ∧ pending left = F.rest (Framing.received feed t) := by
  have hR := Prog.admits_of_mem [] hobeys
  constructor
  · refine Framing.faithful_of_owes fun pre e post ht => ?_
    have howing : F.Owes feed (pre.reverse ++ []).reverse e :=
      (Prog.admits_iff _ t []).1 (hsafe.admits hr hR) pre e post ht
    rwa [List.append_nil, List.reverse_reverse] at howing
  · rintro left rfl
    have hpost := hsafe.post hr hR left rfl
    have hdone := hpost.1.drained F _ hpost.2
    simpa using hdone

/-! ## The client -/

namespace RabbitMqLink

def feed : Framing.Feed Event Byte where
  chunk
    | .recv (.bytes chunk) => chunk
    | _                    => []
  given
    | .parse pending _ => some pending
    | _                => none
  parsed
    | .parse pending (.ok parsed) => some (pending, parsed)
    | _                           => none
  waits
    | .waitForSocketReadable _ => true
    | .recv _                  => true
    | _                        => false

variable {F : Framing Byte}

section

variable (F)

abbrev Obeying (_ : List Event) (e : Event) : Prop := F.Obeys feed e

abbrev Owing (h : List Event) (e : Event) : Prop := F.Owes feed h.reverse e

end

theorem safe_parsePending (n : Nat) {pending : Bytes} {h : List Event} (ha : F.Accounts feed h.reverse pending) :
    (parsePending n pending).Safe (Obeying F) (Owing F)
      (fun h' r => ∀ left, r = .ok left → F.Accounts feed h'.reverse left ∧ F.next left = none) h := by
  refine Prog.safe_iterate (fun pending h => F.Accounts feed h.reverse pending) (fun pending h ha => ?_) n pending h ha
  by_cases hempty : pending.isEmpty = true
  · rw [if_pos hempty]
    rintro left ⟨⟩
    have hnil := List.isEmpty_iff.1 hempty
    exact ⟨ha, by rw [hnil]; exact F.next_nil⟩
  · have hparse : surroundings.parse pending = Prog.call (Event.parse pending) := rfl
    rw [if_neg hempty, Prog.safe_bind, hparse, Prog.safe_call]
    intro r hr
    have hne : pending ≠ [] := fun hnil => hempty (List.isEmpty_iff.2 hnil)
    refine ⟨ha.owes_call hne rfl rfl, ?_⟩
    cases r with
    | error e => exact fun left hl => by cases hl
    | ok parsed =>
      have hconsumes : F.Consumes pending parsed := hr pending parsed rfl
      have ha' := ha.parse (e := Event.parse pending (.ok parsed)) rfl rfl hconsumes
      have hle := hconsumes.le
      rw [Prog.andThen_ok]
      by_cases hbreak : parsed = 0 ∨ pending.length < parsed
      · have hzero : parsed = 0 := by omega
        subst hzero
        rw [if_pos hbreak]
        rintro left ⟨⟩
        rw [List.reverse_cons]
        exact ⟨ha', hconsumes.zero rfl⟩
      · rw [if_neg hbreak]
        simp only [Prog.safe_pure, List.reverse_cons]
        exact ha'

/-- Every turn takes at least a byte off the buffer. -/
theorem returns_parsePending (pending : Bytes) (h : List Event) :
    (parsePending (pending.length + 1) pending).Returns (Obeying F) (fun _ _ => True) h := by
  refine Prog.returns_iterate (fun _ _ => True) (fun pending _ => pending.length) (fun pending h _ => ?_) _ pending h trivial
    (Nat.lt_succ_self _)
  by_cases hempty : pending.isEmpty = true
  · rw [if_pos hempty]
    trivial
  · rw [if_neg hempty]
    refine Prog.Returns.bind (Q := fun _ _ => True) (fun h' parsed _ => ?_) (fun _ _ _ => trivial)
      (Prog.returns_call fun _ _ => trivial)
    by_cases hbreak : parsed = 0 ∨ pending.length < parsed
    · rw [if_pos hbreak]
      trivial
    · rw [if_neg hbreak]
      refine ⟨trivial, ?_⟩
      rw [List.length_drop]
      omega

/-- The frames are handed over and the buffer holds the incomplete rest. -/
def Drained (F : Framing Byte) (pending : Bytes) (h : List Event) : Prop :=
  F.Accounts feed h.reverse pending ∧ F.next pending = none

theorem Drained.quiet {pending : Bytes} {h : List Event} (hd : Drained F pending h) {e : Event}
    (hchunk : feed.chunk e = []) (hparsed : feed.parsed e = none) : Drained F pending (e :: h) := by
  refine ⟨?_, hd.2⟩
  rw [List.reverse_cons]
  exact hd.1.silent hchunk hparsed

/-- What the loop owes after a turn. -/
def TurnPost (F : Framing Byte) (h' : List Event) : Except Exn (Bytes ⊕ Bytes) → Prop
  | .ok (.inl pending) => Drained F pending h'
  | .ok (.inr pending) => Drained F pending h'
  | .error _           => True

theorem safe_leave (error : String) {pending : Bytes} {h : List Event} (hd : Drained F pending h) :
    (surroundings.leave error pending).Safe (Obeying F) (Owing F) (TurnPost F) h :=
  fun _ _ => ⟨Framing.owes_quiet rfl rfl, hd.quiet rfl rfl⟩

theorem safe_goesOn {pending : Bytes} {h : List Event} (hd : Drained F pending h) :
    surroundings.goesOn.Safe (Obeying F) (Owing F) (fun h' _ => Drained F pending h') h := by
  unfold Surroundings.goesOn
  rw [Prog.safe_bind, Prog.safe_emit]
  intro stopping _
  refine ⟨Framing.owes_quiet rfl rfl, ?_⟩
  have hd' := hd.quiet (e := .stopping stopping) rfl rfl
  cases stopping with
  | true => exact hd'
  | false => exact fun broken _ => ⟨Framing.owes_quiet rfl rfl, hd'.quiet (e := .broken broken) rfl rfl⟩

theorem safe_connectionLost {pending : Bytes} {h : List Event} (hd : Drained F pending h) :
    surroundings.connectionLost.Safe (Obeying F) (Owing F) (fun h' _ => Drained F pending h') h := by
  unfold Surroundings.connectionLost
  rw [Prog.safe_bind, Prog.safe_emit]
  intro lost _
  refine ⟨Framing.owes_quiet rfl rfl, ?_⟩
  have hd' := hd.quiet (e := .connectionError lost) rfl rfl
  cases lost with
  | true => exact hd'
  | false => exact fun closed _ => ⟨Framing.owes_quiet rfl rfl, hd'.quiet (e := .connectionClosed closed) rfl rfl⟩

theorem safe_read (fuel : Nat) {pending : Bytes} {h : List Event} (hd : Drained F pending h) :
    (surroundings.read fuel pending).Safe (Obeying F) (Owing F) (TurnPost F) h := by
  have hlock : surroundings.lockAmqp = Prog.emit fun _ : Unit => Event.lockAmqp := rfl
  unfold Surroundings.read
  rw [Prog.safe_bind, Prog.safe_emit]
  intro received _
  refine ⟨hd.1.owes_wait hd.2 rfl, ?_⟩
  rw [Prog.andThen_ok]
  cases received with
  | closed => exact safe_leave _ (hd.quiet rfl rfl)
  | wouldBlock => exact hd.quiet rfl rfl
  | error errno => exact safe_leave _ (hd.quiet rfl rfl)
  | bytes chunk =>
    simp only
    rw [Prog.safe_bind, hlock, Prog.safe_emit]
    intro _ _
    refine ⟨Framing.owes_quiet rfl rfl, ?_⟩
    have ha := hd.1.receive (e := Event.recv (.bytes chunk)) rfl rfl
    rw [← List.reverse_cons] at ha
    have ha' := ha.silent (e := Event.lockAmqp) rfl rfl
    rw [← List.reverse_cons] at ha'
    rw [Prog.andThen_ok, Prog.safe_bind]
    refine (safe_parsePending fuel ha').mono fun h₄ r hr => ?_
    cases r with
    | error e => trivial
    | ok left => exact hr left rfl

theorem safe_receiveLoop (fuel n : Nat) {pending : Bytes} {h : List Event} (hd : Drained F pending h) :
    (receiveLoop fuel n pending).Safe (Obeying F) (Owing F)
      (fun h' r => ∀ left, r = .ok left → Drained F left h') h := by
  refine Prog.safe_iterate (fun pending h => Drained F pending h) (fun pending h hd => ?_) n pending h hd
  refine Prog.Safe.mono (Q := TurnPost F) (fun h' r hr => ?_) ?_
  · match r with
    | .ok (.inl s) => exact hr
    | .ok (.inr b) =>
      rintro left ⟨⟩
      exact hr
    | .error e => exact fun left hl => by cases hl
  rw [Prog.safe_bind]
  refine (safe_goesOn hd).mono fun h₁ r hd₁ => ?_
  cases r with
  | error e => trivial
  | ok on =>
    rw [Prog.andThen_ok]
    cases on with
    | false => exact hd₁
    | true =>
      simp only [Bool.not_true, Bool.false_eq_true, if_false]
      rw [Prog.safe_bind]
      refine (safe_connectionLost hd₁).mono fun h₂ r hd₂ => ?_
      cases r with
      | error e => trivial
      | ok lost =>
        rw [Prog.andThen_ok]
        cases lost with
        | true => exact safe_leave _ hd₂
        | false =>
          simp only [Bool.false_eq_true, if_false]
          rw [Prog.safe_bind, Prog.safe_emit]
          intro status _
          refine ⟨hd₂.1.owes_wait hd₂.2 rfl, ?_⟩
          have hd₃ := hd₂.quiet (e := .waitForSocketReadable status) rfl rfl
          rw [Prog.andThen_ok]
          cases status with
          | timeout => exact hd₃
          | error => exact safe_leave _ hd₃
          | readable => exact safe_read fuel hd₃

end RabbitMqLink

/-! ## The server -/

namespace RabbitMq

def feed : Framing.Feed Event Byte where
  chunk
    | .recv _ (.bytes chunk) => chunk
    | _                      => []
  given
    | .parse pending _ => some pending
    | _                => none
  parsed
    | .parse pending (.returns parsed) => some (pending, parsed)
    | _                                => none
  waits
    | .waitForSocketReadable _ _ => true
    | .recv _ _                  => true
    | _                          => false

/-- An event of a callback, which has nothing to do with the stream. -/
structure Quiet (e : Event) : Prop where
  chunk : feed.chunk e = []
  given : feed.given e = none
  parsed : feed.parsed e = none
  waits : feed.waits e = false

/-! ### Callbacks -/

theorem Quiet.of_callback {e : Event} (he : OfCallback e) : Quiet e := by
  cases e <;> first | exact ⟨rfl, rfl, rfl, rfl⟩ | exact he.elim

theorem quiet_onCallback (callback : Callback) (h : List Event) :
    Keeps (fun _ _ => True) (fun _ e => Quiet e) (onCallback callback) h :=
  (ofCallback_onCallback callback h).weaken (fun _ _ _ => trivial) fun _ _ he => Quiet.of_callback he

/-- A callback has no loop. -/
abbrev Ends {α : Type} (p : Prog Exn Event α) (h : List Event) : Prop := p.Returns (fun _ _ => True) (fun _ _ => True) h

theorem ends_bind {α β : Type} {p : Prog Exn Event α} {f : α → Prog Exn Event β} {h : List Event} (hp : Ends p h)
    (hf : ∀ a h', Ends (f a) h') : Ends (p >>= f) h :=
  Prog.Returns.bind (fun h' a _ => hf a h') (fun _ _ _ => trivial) hp

theorem ends_call {α : Type} (ev : Except Exn α → Event) (h : List Event) : Ends (call ev : Prog Exn Event α) h :=
  Prog.returns_call fun _ _ => trivial

theorem ends_ack (tag : Nat) (h : List Event) : Ends (ack tag) h := ends_bind (ends_call _ h) fun _ _ => trivial

theorem ends_reject (tag : Nat) (requeue : Bool) (h : List Event) : Ends (reject tag requeue) h :=
  ends_bind (ends_call _ h) fun _ _ => trivial

theorem ends_publish (message : Message) (response : Bytes) (h : List Event) :
    Ends (publishResponseIfRequested message response) h := by
  unfold publishResponseIfRequested
  split
  · trivial
  · refine ends_bind (ends_call _ h) fun published _ => ?_
    cases published <;> trivial

theorem ends_processMessage (payload : Bytes) (h : List Event) : Ends (processMessage payload) h := by
  rintro ⟨writes, result⟩ _
  cases result <;> trivial

theorem ends_processDelivery (message : Message) (tag : Nat) (h : List Event) : Ends (processDelivery message tag) h := by
  refine Prog.Returns.tryCatch (Q := fun _ _ => True) (fun _ _ _ => trivial) (fun _ _ _ => ?_) ?_
  · trivial
  intro configured _
  cases configured with
  | false => trivial
  | true =>
    refine ends_bind (p := processMessage message.body) (ends_processMessage _ _) fun r h' => ?_
    obtain ⟨processed, response⟩ := r
    cases processed with
    | false => trivial
    | true =>
      refine ends_bind (p := publishResponseIfRequested message response) (ends_publish message response h')
        fun published h'' => ?_
      cases published with
      | false => exact ends_reject tag true h''
      | true => exact ends_ack tag h''

theorem ends_onCallback (callback : Callback) (h : List Event) : Ends (onCallback callback) h := by
  cases callback with
  | received message tag =>
    refine ends_bind ?_ fun _ _ => trivial
    unfold onReceived
    split
    · exact ends_ack tag h
    · exact ends_processDelivery message tag h
  | _ => trivial

/-! ### The loops -/

variable {F : Framing Byte}

section

variable (F)

abbrev Obeying (_ : List Event) (e : Event) : Prop := F.Obeys feed e

abbrev Owing (h : List Event) (e : Event) : Prop := F.Owes feed h.reverse e

/-- The frames are handed over and the buffer holds the incomplete rest. -/
def Drained (state : Runtime) (h : List Event) : Prop :=
  F.Accounts feed h.reverse state.pendingBytes ∧ F.next state.pendingBytes = none

end

theorem Drained.quiet {state : Runtime} {h : List Event} (hd : Drained F state h) {e : Event}
    (hchunk : feed.chunk e = []) (hparsed : feed.parsed e = none) : Drained F state (e :: h) := by
  refine ⟨?_, hd.2⟩
  rw [List.reverse_cons]
  exact hd.1.silent hchunk hparsed

theorem safe_onCallback (callback : Callback) {pending : Bytes} {h : List Event}
    (ha : F.Accounts feed h.reverse pending) : (onCallback callback).Safe (Obeying F) (Owing F)
      (fun h' _ => F.Accounts feed h'.reverse pending) h := by
  have hkeep : ∀ (h : List Event) (e : Event), Quiet e → F.Accounts feed h.reverse pending →
      F.Accounts feed (e :: h).reverse pending := fun h e hq ha => by
    rw [List.reverse_cons]
    exact ha.silent hq.chunk hq.parsed
  have hsafe := (quiet_onCallback callback h).preserve hkeep ha
  exact (hsafe.weaken (fun _ _ _ => trivial) fun _ _ hq => Framing.owes_quiet hq.given hq.waits).mono
    fun _ _ hp => hp.1

theorem safe_parse (fuel : Nat) (closed : Bool) {pending : Bytes} {h : List Event} (hne : pending ≠ [])
    (ha : F.Accounts feed h.reverse pending) : (parse pending fuel closed).Safe (Obeying F) (Owing F)
      (fun h' r => ∀ result, r = .ok result →
        F.Consumes pending result.1 ∧ F.Accounts feed h'.reverse (pending.drop result.1)) h := by
  refine Prog.safe_iterate (fun _ h => F.Accounts feed h.reverse pending) (fun closed h ha => ?_) fuel closed h ha
  rw [Prog.safe_bind, Prog.safe_emit]
  intro next hr
  refine ⟨ha.owes_call hne rfl rfl, ?_⟩
  rw [Prog.andThen_ok]
  cases next with
  | returns parsed =>
    rintro result ⟨⟩
    have hconsumes : F.Consumes pending parsed := hr pending parsed rfl
    rw [List.reverse_cons]
    exact ⟨hconsumes, ha.parse rfl rfl hconsumes⟩
  | throws e => exact fun result hr => by cases hr
  | calls callback =>
    have ha' := ha.silent (e := Event.parse pending (.calls callback)) rfl rfl
    rw [← List.reverse_cons] at ha'
    simp only
    rw [Prog.safe_bind]
    refine (safe_onCallback callback ha').mono fun h' r ha'' => ?_
    cases r with
    | error e => exact fun result hr => by cases hr
    | ok closes => exact ha''

theorem safe_parsePending (fuel n : Nat) {state : Runtime} {h : List Event}
    (ha : F.Accounts feed h.reverse state.pendingBytes) : (parsePending fuel n state).Safe (Obeying F) (Owing F)
      (fun h' r => ∀ left, r = .ok left → Drained F left h') h := by
  refine Prog.safe_iterate (fun state h => F.Accounts feed h.reverse state.pendingBytes) (fun state h ha => ?_) n state h ha
  by_cases hempty : state.pendingBytes.isEmpty = true
  · rw [if_pos hempty]
    rintro left ⟨⟩
    have hnil := List.isEmpty_iff.1 hempty
    exact ⟨ha, by rw [hnil]; exact F.next_nil⟩
  · have hne : state.pendingBytes ≠ [] := fun hnil => hempty (List.isEmpty_iff.2 hnil)
    rw [if_neg hempty, Prog.safe_bind]
    refine (safe_parse fuel state.connectionClosed hne ha).mono fun h' r hr => ?_
    cases r with
    | error e => exact fun left hl => by cases hl
    | ok result =>
      obtain ⟨parsed, closed⟩ := result
      obtain ⟨hconsumes, ha'⟩ := hr _ rfl
      have hle := hconsumes.le
      rw [Prog.andThen_ok]
      simp only at ha' hle hconsumes ⊢
      by_cases hbreak : parsed = 0 ∨ state.pendingBytes.length < parsed
      · have hzero : parsed = 0 := by omega
        subst hzero
        rw [if_pos hbreak]
        rintro left ⟨⟩
        exact ⟨ha', hconsumes.zero rfl⟩
      · rw [if_neg hbreak]
        exact ha'

/-- What the loop owes after a turn. -/
def TurnPost (F : Framing Byte) (h' : List Event) : Except Exn (Runtime ⊕ Runtime) → Prop
  | .ok (.inl state) => Drained F state h'
  | .ok (.inr state) => Drained F state h'
  | .error _         => True

theorem safe_socketError (text : String) (errno : Text) {state : Runtime} {h : List Event} (hd : Drained F state h) :
    (socketError text errno state).Safe (Obeying F) (Owing F) (TurnPost F) h := by
  unfold socketError
  rw [Prog.safe_bind, Prog.safe_emit]
  intro stop _
  refine ⟨Framing.owes_quiet rfl rfl, ?_⟩
  have hd' := hd.quiet (e := .stopRequested stop) rfl rfl
  cases stop with
  | true => exact hd'
  | false => trivial

theorem safe_receive (socket : Socket) (fuel n : Nat) {state : Runtime} {h : List Event} (hd : Drained F state h) :
    (receive socket fuel n state).Safe (Obeying F) (Owing F) (fun h' r => ∀ left, r = .ok left → Drained F left h') h := by
  refine Prog.safe_iterate (fun state h => Drained F state h) (fun state h hd => ?_) n state h hd
  refine Prog.Safe.mono (Q := TurnPost F) (fun h' r hr => ?_) ?_
  · match r with
    | .ok (.inl s) => exact hr
    | .ok (.inr b) =>
      rintro left ⟨⟩
      exact hr
    | .error e => exact fun left hl => by cases hl
  rw [Prog.safe_bind, Prog.safe_emit]
  intro stop _
  refine ⟨Framing.owes_quiet rfl rfl, ?_⟩
  have hd₁ := hd.quiet (e := .stopRequested stop) rfl rfl
  rw [Prog.andThen_ok]
  by_cases hends : (stop || state.connectionClosed || state.connectionError) = true
  · rw [if_pos hends]
    exact hd₁
  · rw [if_neg hends, Prog.safe_bind, Prog.safe_emit]
    intro status _
    refine ⟨hd₁.1.owes_wait hd₁.2 rfl, ?_⟩
    have hd₂ := hd₁.quiet (e := .waitForSocketReadable socket status) rfl rfl
    rw [Prog.andThen_ok]
    cases status with
    | timeout => exact hd₂
    | error errno => exact safe_socketError _ errno hd₂
    | readable =>
      simp only
      rw [Prog.safe_bind, Prog.safe_emit]
      intro received _
      refine ⟨hd₂.1.owes_wait hd₂.2 rfl, ?_⟩
      rw [Prog.andThen_ok]
      cases received with
      | closed => exact hd₂.quiet (e := .recv socket .closed) rfl rfl
      | wouldBlock => exact hd₂.quiet rfl rfl
      | error errno => exact safe_socketError _ errno (hd₂.quiet rfl rfl)
      | bytes chunk =>
        have ha := hd₂.1.receive (e := Event.recv socket (.bytes chunk)) rfl rfl
        rw [← List.reverse_cons] at ha
        simp only
        rw [Prog.safe_bind]
        have hparsed := @safe_parsePending F fuel fuel { state with pendingBytes := state.pendingBytes ++ chunk } _ ha
        refine hparsed.mono fun h' r hr => ?_
        cases r with
        | error e => trivial
        | ok left => exact hr left rfl

/-! ### The inner loop ends -/

/-- The callbacks of the call of `parse` that is under way. -/
def callbacks : List Event → Nat
  | .parse _ (.calls _) :: h => callbacks h + 1
  | .parse _ _ :: _          => 0
  | _ :: h                   => callbacks h
  | []                       => 0

theorem Quiet.callbacks {e : Event} (hq : Quiet e) (h : List Event) : callbacks (e :: h) = RabbitMq.callbacks h := by
  cases e with
  | parse pending next => cases hq.given
  | _ => rfl

/-- The parser runs less than `fuel` callbacks in one call. -/
def FewCallbacks (fuel : Nat) (h : List Event) (e : Event) : Prop :=
  ∀ pending callback, e = .parse pending (.calls callback) → callbacks h + 1 < fuel

theorem returns_onCallback (fuel : Nat) (callback : Callback) (h : List Event) :
    (onCallback callback).Returns (FewCallbacks fuel) (fun h' _ => callbacks h' = callbacks h) h := by
  have hsafe := (quiet_onCallback callback h).preserve (P := fun h' => callbacks h' = callbacks h)
    (fun h' e hq hc => by rw [hq.callbacks h', hc]) rfl
  have hends : (onCallback callback).Returns (FewCallbacks fuel) (fun _ _ => True) h := (ends_onCallback callback h).of_true
  have hfew : (onCallback callback).Safe (FewCallbacks fuel) (fun _ => Quiet)
      (fun h' r => callbacks h' = callbacks h ∧ True) h := hsafe.weaken (fun _ _ _ => trivial) fun _ _ hq => hq
  exact hends.of_safe (hfew.mono fun _ _ hp => hp.1)

theorem returns_parse {fuel : Nat} (pending : Bytes) (closed : Bool) {h : List Event} (hfuel : 0 < fuel)
    (hc : callbacks h = 0) : (parse pending fuel closed).Returns (FewCallbacks fuel)
      (fun h' r => ∀ result, r = .ok result → callbacks h' = 0) h := by
  refine Prog.returns_iterate (fun _ h => callbacks h < fuel) (fun _ h => fuel - 1 - callbacks h) (fun closed h hlt => ?_)
    fuel closed h (by omega) (by omega)
  intro next hr
  cases next with
  | returns parsed => exact fun result _ => rfl
  | throws e => exact fun result hr => by cases hr
  | calls callback =>
    have hfew : callbacks h + 1 < fuel := hr pending callback rfl
    have hcount : callbacks (.parse pending (.calls callback) :: h) = callbacks h + 1 := rfl
    refine Prog.Returns.bind (p := onCallback callback) (fun h' closes hc' => ?_) (fun h' e _ => ?_)
      (returns_onCallback fuel callback _)
    · refine ⟨?_, ?_⟩
      · rw [hc', hcount]
        exact hfew
      · rw [hc', hcount]
        omega
    · exact fun result hr => by cases hr

/-- Every turn takes at least a byte off the buffer. -/
theorem returns_parsePending {fuel : Nat} (state : Runtime) {h : List Event} (hfuel : 0 < fuel) (hc : callbacks h = 0) :
    (parsePending fuel (state.pendingBytes.length + 1) state).Returns (FewCallbacks fuel) (fun _ _ => True) h := by
  refine Prog.returns_iterate (fun _ h => callbacks h = 0) (fun state _ => state.pendingBytes.length)
    (fun state h hc => ?_) _ state h hc (Nat.lt_succ_self _)
  by_cases hempty : state.pendingBytes.isEmpty = true
  · rw [if_pos hempty]
    trivial
  · rw [if_neg hempty]
    refine Prog.Returns.bind (fun h' result hr => ?_) (fun _ _ _ => trivial)
      (returns_parse state.pendingBytes state.connectionClosed hfuel hc)
    obtain ⟨parsed, closed⟩ := result
    simp only
    by_cases hbreak : parsed = 0 ∨ state.pendingBytes.length < parsed
    · rw [if_pos hbreak]
      trivial
    · rw [if_neg hbreak]
      refine ⟨hr _ rfl, ?_⟩
      simp only [List.length_drop]
      omega

end RabbitMq

/-! ## Both loops -/

theorem RabbitMqLink.faithful {F : Framing Byte} {fuel n : Nat} {t : List RabbitMqLink.Event} {o : Outcome Exn Bytes}
    (hr : (RabbitMqLink.receiveLoop fuel n []).Runs t o) (hobeys : ∀ e ∈ t, F.Obeys RabbitMqLink.feed e) :
    F.Faithful RabbitMqLink.feed t ∧ ∀ left, o = .done left →
      F.handed RabbitMqLink.feed t = F.frames (Framing.received RabbitMqLink.feed t) ∧
        left = F.rest (Framing.received RabbitMqLink.feed t) := by
  have hdrained : RabbitMqLink.Drained F [] [] := ⟨F.accounts_nil RabbitMqLink.feed, F.next_nil⟩
  exact @faithful_of_safe _ _ F _ _ id (RabbitMqLink.safe_receiveLoop fuel n hdrained) t o hr hobeys

theorem RabbitMq.faithful {F : Framing Byte} {socket : RabbitMq.Socket} {fuel n : Nat} {t : List RabbitMq.Event}
    {o : Outcome Exn RabbitMq.Runtime} (hr : (RabbitMq.receive socket fuel n {}).Runs t o)
    (hobeys : ∀ e ∈ t, F.Obeys RabbitMq.feed e) :
    F.Faithful RabbitMq.feed t ∧ ∀ state, o = .done state →
      F.handed RabbitMq.feed t = F.frames (Framing.received RabbitMq.feed t) ∧
        state.pendingBytes = F.rest (Framing.received RabbitMq.feed t) := by
  have hdrained : RabbitMq.Drained F {} [] := ⟨F.accounts_nil RabbitMq.feed, F.next_nil⟩
  exact faithful_of_safe (RabbitMq.safe_receive socket fuel n hdrained) hr hobeys

/-- **Chunking**: if `parse` takes whole frames, the loops of the client and of the server hand over the frames of the
stream and keep its incomplete rest; a client and a server with one stream hand over the same frames; and the inner loops
end, the server's whenever the callbacks of one call do. -/
theorem chunking_invariant (F : Framing Byte) :
    (∀ fuel n t o, (RabbitMqLink.receiveLoop fuel n []).Runs t o → (∀ e ∈ t, F.Obeys RabbitMqLink.feed e) →
      F.Faithful RabbitMqLink.feed t ∧ ∀ left, o = .done left →
        F.handed RabbitMqLink.feed t = F.frames (Framing.received RabbitMqLink.feed t) ∧
          left = F.rest (Framing.received RabbitMqLink.feed t)) ∧
    (∀ socket fuel n t o, (RabbitMq.receive socket fuel n {}).Runs t o → (∀ e ∈ t, F.Obeys RabbitMq.feed e) →
      F.Faithful RabbitMq.feed t ∧ ∀ state, o = .done state →
        F.handed RabbitMq.feed t = F.frames (Framing.received RabbitMq.feed t) ∧
          state.pendingBytes = F.rest (Framing.received RabbitMq.feed t)) ∧
    (∀ fuel n t left socket fuel' n' t' state,
      (RabbitMqLink.receiveLoop fuel n []).Runs t (.done left) → (∀ e ∈ t, F.Obeys RabbitMqLink.feed e) →
      (RabbitMq.receive socket fuel' n' {}).Runs t' (.done state) → (∀ e ∈ t', F.Obeys RabbitMq.feed e) →
      Framing.received RabbitMqLink.feed t = Framing.received RabbitMq.feed t' →
        F.handed RabbitMqLink.feed t = F.handed RabbitMq.feed t' ∧ left = state.pendingBytes) ∧
    (∀ pending h, (RabbitMqLink.parsePending (pending.length + 1) pending).Returns (RabbitMqLink.Obeying F)
      (fun _ _ => True) h) ∧
    ∀ fuel state h, 0 < fuel → RabbitMq.callbacks h = 0 →
      (RabbitMq.parsePending fuel (state.pendingBytes.length + 1) state).Returns (RabbitMq.FewCallbacks fuel)
        (fun _ _ => True) h := by
  refine ⟨fun _ _ _ _ => RabbitMqLink.faithful, fun _ _ _ _ _ => RabbitMq.faithful, ?_,
    RabbitMqLink.returns_parsePending, fun _ state _ hfuel hc => RabbitMq.returns_parsePending state hfuel hc⟩
  intro fuel n t left socket fuel' n' t' state hr hobeys hr' hobeys' hsame
  obtain ⟨hframes, hleft⟩ := (RabbitMqLink.faithful hr hobeys).2 left rfl
  obtain ⟨hframes', hleft'⟩ := (RabbitMq.faithful hr' hobeys').2 state rfl
  rw [hframes, hframes', hleft, hleft', hsame]
  exact ⟨rfl, rfl⟩

/-! ### AMQP's frames -/

/-- Seven bytes with the size of the payload in the last four, the payload, and an end octet. -/
def amqpNext : Bytes → Option Nat
  | _ :: _ :: _ :: a :: b :: c :: d :: rest =>
    let size := ((a.toNat * 256 + b.toNat) * 256 + c.toNat) * 256 + d.toNat
    if size < rest.length then some (size + 8) else none
  | _ => none

def amqpFraming : Framing Byte where
  next := amqpNext
  pos {buffer n} h := by
    unfold amqpNext at h
    split at h
    · simp only [Option.ite_none_right_eq_some, Option.some.injEq] at h
      omega
    · cases h
  le {buffer n} h := by
    unfold amqpNext at h
    split at h
    · simp only [Option.ite_none_right_eq_some, Option.some.injEq] at h
      simp only [List.length_cons]
      omega
    · cases h
  take {buffer n} h := by
    unfold amqpNext at h
    split at h
    · simp only [Option.ite_none_right_eq_some, Option.some.injEq] at h
      obtain ⟨hlt, rfl⟩ := h
      simp only [List.take_succ_cons, amqpNext, List.length_take]
      rw [if_pos (by omega)]
    · cases h
  append {buffer n} h more := by
    unfold amqpNext at h
    split at h
    · simp only [Option.ite_none_right_eq_some, Option.some.injEq] at h
      obtain ⟨hlt, rfl⟩ := h
      simp only [List.cons_append, amqpNext, List.length_append]
      rw [if_pos (by omega)]
    · cases h

/-- A heartbeat that comes in two pieces. -/
def heartbeatRun : List RabbitMqLink.Event :=
  [.stopping false, .broken false, .connectionError false, .connectionClosed false, .waitForSocketReadable .readable,
    .recv (.bytes [8, 0, 0]), .lockAmqp, .parse [8, 0, 0] (.ok 0),
    .stopping false, .broken false, .connectionError false, .connectionClosed false, .waitForSocketReadable .readable,
    .recv (.bytes [0, 0, 0, 0, 206]), .lockAmqp, .parse [8, 0, 0, 0, 0, 0, 0, 206] (.ok 8), .stopping true]

theorem heartbeatRun_runs : (RabbitMqLink.receiveLoop 3 3 []).Runs heartbeatRun (.done []) := by
  refine Prog.runs_ask.2 ⟨false, rfl, ?_⟩
  refine Prog.runs_ask.2 ⟨false, rfl, ?_⟩
  refine Prog.runs_ask.2 ⟨false, rfl, ?_⟩
  refine Prog.runs_ask.2 ⟨false, rfl, ?_⟩
  refine Prog.runs_ask.2 ⟨.readable, rfl, ?_⟩
  refine Prog.runs_ask.2 ⟨.bytes [8, 0, 0], rfl, ?_⟩
  refine Prog.runs_ask.2 ⟨(), rfl, ?_⟩
  refine Prog.runs_ask.2 ⟨.ok 0, rfl, ?_⟩
  refine Prog.runs_ask.2 ⟨false, rfl, ?_⟩
  refine Prog.runs_ask.2 ⟨false, rfl, ?_⟩
  refine Prog.runs_ask.2 ⟨false, rfl, ?_⟩
  refine Prog.runs_ask.2 ⟨false, rfl, ?_⟩
  refine Prog.runs_ask.2 ⟨.readable, rfl, ?_⟩
  refine Prog.runs_ask.2 ⟨.bytes [0, 0, 0, 0, 206], rfl, ?_⟩
  refine Prog.runs_ask.2 ⟨(), rfl, ?_⟩
  refine Prog.runs_ask.2 ⟨.ok 8, rfl, ?_⟩
  refine Prog.runs_ask.2 ⟨true, rfl, ?_⟩
  exact ⟨rfl, rfl⟩

theorem heartbeatRun_obeys : ∀ e ∈ heartbeatRun, amqpFraming.Obeys RabbitMqLink.feed e := by
  have hzero : amqpFraming.Consumes [8, 0, 0] 0 :=
    ⟨Nat.zero_le _, ⟨[], fun _ h => absurd h List.not_mem_nil, rfl⟩, fun _ => rfl⟩
  have height : amqpFraming.Consumes [8, 0, 0, 0, 0, 0, 0, 206] 8 := by
    refine ⟨Nat.le_refl _, ⟨[[8, 0, 0, 0, 0, 0, 0, 206]], fun frame h => ?_, rfl⟩, fun h => by cases h⟩
    rw [List.mem_singleton.1 h]
    unfold Framing.IsFrame
    decide +kernel
  intro e he buffer n hparsed
  simp only [heartbeatRun, List.mem_cons, List.not_mem_nil, or_false] at he
  rcases he with rfl | rfl | rfl | rfl | rfl | rfl | rfl | rfl | rfl | rfl | rfl | rfl | rfl | rfl | rfl | rfl | rfl <;>
    cases hparsed
  · exact hzero
  · exact height

/-- The run hands the one frame over. -/
theorem chunking_invariant_heartbeat :
    amqpFraming.handed RabbitMqLink.feed heartbeatRun = amqpFraming.frames [8, 0, 0, 0, 0, 0, 0, 206] ∧
      amqpFraming.frames [8, 0, 0, 0, 0, 0, 0, 206] = [[8, 0, 0, 0, 0, 0, 0, 206]] :=
  ⟨(((chunking_invariant amqpFraming).1 3 3 heartbeatRun _ heartbeatRun_runs heartbeatRun_obeys).2 [] rfl).1, rfl⟩

end Graftcode
