import Graftcode.Monitor
import Graftcode.RabbitMqServer
/-!
# SocketSends — buffers on their way into the socket

`SocketConnectionHandler::onData` of `RabbitMqClient.cpp` and `RabbitMqServer.cpp`, called from any number of threads.
`send` takes any part of what it is offered, so that a buffer goes out in several pieces; `sendMutex_` keeps the pieces
of one buffer together.  The handlers differ in what a failure does after it has set the flag of the connection.
-/
namespace Graftcode
namespace RabbitMq

open Prog (emit attempt iterate forEach)
open Monitor (Sectioned Relies Orderly sectionsOf order insides flat)

inductive ConnectionHandler where
  | client
  | server

/-- What is done while `sendMutex_` is held. -/
inductive SendEvent where
  -- what is offered, what `send` returns, and what `errno` says by then
  | send (offered : Bytes) (sent : Int) (errno : Text)
  | storeConnectionError

def sendFailed (errno : Text) : ConnectionHandler → Prog Exn SendEvent Unit
  | .client => pure ()
  | .server => Prog.throw (.std (lastSocketErrorMessage "RabbitMQ consumer: socket send failed" errno))

/-- The loop over `sentTotal`. -/
def sendAll (handler : ConnectionHandler) (buffer : Bytes) :
    (fuel : Nat) → (sentTotal : Nat) → Prog Exn SendEvent Unit :=
  iterate fun sentTotal => do
    if sentTotal < buffer.length then
      let (sent, errno) ← emit fun x : Int × Text => SendEvent.send (buffer.drop sentTotal) x.1 x.2
      if sent ≤ 0 then
        emit (fun _ : Unit => SendEvent.storeConnectionError)
        sendFailed errno handler
        pure (.inr ())
      else pure (.inl (sentTotal + sent.toNat))
    else pure (.inr ())

/-- A null pointer is `none`. -/
def onData (handler : ConnectionHandler) (fuel : Nat) :
    Option Bytes → Prog Exn (Monitor.Event SendEvent Empty) Unit
  | none        => pure ()
  | some buffer => if buffer.length = 0 then pure () else Monitor.guarded (sendAll handler buffer fuel 0)

/-- A thread that hands over one buffer after the other, whatever is thrown. -/
def sender (handler : ConnectionHandler) (fuel : Nat) (buffers : List (Option Bytes)) :
    Prog Exn (Monitor.Event SendEvent Empty) Unit :=
  forEach (fun buffer => do
    let _ ← attempt (fun _ => true) (onData handler fuel buffer)
    pure true) buffers

/-- What has gone into the socket, and the flag of the connection. -/
structure Wire where
  bytes : Bytes := []
  connectionError : Bool := false

/-- `send` takes no more than it is offered. -/
def Wire.touch (w : Wire) (_ : Nat) : SendEvent → Option Wire
  | .send offered sent _  =>
    if sent ≤ offered.length then some { w with bytes := w.bytes ++ offered.take sent.toNat } else none
  | .storeConnectionError => some { w with connectionError := true }

def SendEvent.taken : SendEvent → Bytes
  | .send offered sent _  => offered.take sent.toNat
  | .storeConnectionError => []

/-- What has been taken of what was offered, latest event first. -/
def takenOf (es : List SendEvent) : Bytes := es.reverse.flatMap SendEvent.taken

/-- The buffers that there is something of to send. -/
def pieces (buffers : List (Option Bytes)) : List Bytes :=
  buffers.filterMap fun b => b.filter fun bytes => bytes.length ≠ 0

/-- The sections of a thread, first one first. -/
def sectionsBy (n : Nat) (t : List (Nat × Monitor.Event SendEvent Empty)) : List (List SendEvent) :=
  (ofActor n (order t)).reverse

/-- What has come of the buffers: the sections under the mutex follow one another on the wire, a thread's are its
buffers in order, and one of which a part is missing is being sent, or the connection has failed. -/
structure Untorn (handler : ConnectionHandler) (fuel : Nat) (buffers : Nat → List (Option Bytes))
    (t : List (Nat × Monitor.Event SendEvent Empty)) (s : Monitor.State Nat Wire) : Prop where
  bytes : s.shared.bytes = (order t).reverse.flatMap fun part => takenOf part.2
  sections : ∀ n i es, (sectionsBy n t)[i]? = some es → ∃ buffer, (pieces (buffers n))[i]? = some buffer ∧
    takenOf es <+: buffer ∧ (takenOf es = buffer ∨ s.shared.connectionError = true ∨
      s.holder = some n ∧ i + 1 = (sectionsBy n t).length)
  finished : ∀ n, (sender handler fuel (buffers n)).Runs (ofActor n t) (.done ()) →
    (sectionsBy n t).length = (pieces (buffers n)).length

/-! ## One buffer -/

theorem takenOf_cons (e : SendEvent) (es : List SendEvent) : takenOf (e :: es) = takenOf es ++ e.taken := by
  simp [takenOf]

/-- `send` takes no more than it is offered. -/
def Takes (_ : List SendEvent) : SendEvent → Prop
  | .send offered sent _  => sent ≤ offered.length
  | .storeConnectionError => True

/-- The buffer went out, or what is missing has been reported. -/
def Sent (buffer : Bytes) (es : List SendEvent) : Prop :=
  takenOf es <+: buffer ∧ (takenOf es = buffer ∨ .storeConnectionError ∈ es)

theorem safe_sendAll (handler : ConnectionHandler) (buffer : Bytes) (fuel : Nat) :
    (sendAll handler buffer fuel 0).Safe Takes (fun es e => takenOf (e :: es) <+: buffer) (fun es _ => Sent buffer es)
      [] := by
  apply Prog.safe_iterate fun (sentTotal : Nat) es => takenOf es = buffer.take sentTotal ∧ sentTotal ≤ buffer.length
  · rintro sentTotal es ⟨htaken, htotal⟩
    split
    · rw [Prog.safe_bind, Prog.safe_emit]
      rintro ⟨sent, errno⟩ hsent
      have hsent : sent ≤ (buffer.drop sentTotal).length := hsent
      have htaken' : takenOf (.send (buffer.drop sentTotal) sent errno :: es) =
          buffer.take (sentTotal + sent.toNat) := by
        rw [takenOf_cons, htaken, List.take_add]
        rfl
      have hpre := htaken' ▸ List.take_prefix (sentTotal + sent.toNat) buffer
      refine ⟨hpre, ?_⟩
      rw [Prog.andThen_ok]
      dsimp only
      split
      · -- what follows a failure changes nothing more
        rw [Prog.safe_bind, Prog.safe_emit]
        intro _ _
        have hfailed : Sent buffer (.storeConnectionError :: .send (buffer.drop sentTotal) sent errno :: es) := by
          refine ⟨?_, .inr List.mem_cons_self⟩
          rw [takenOf_cons]
          simpa [SendEvent.taken] using hpre
        refine ⟨hfailed.1, ?_⟩
        cases handler <;> exact hfailed
      · rw [List.length_drop] at hsent
        exact ⟨htaken', by omega⟩
    · rename_i hdone
      have hall : takenOf es = buffer := by rw [htaken, List.take_of_length_le (Nat.not_lt.1 hdone)]
      exact ⟨hall ▸ List.prefix_rfl, .inl hall⟩
  · exact ⟨rfl, Nat.zero_le _⟩

/-! ## One thread -/

/-- A section is about the buffer in its place. -/
def Sending (all : List Bytes) (d : List (List SendEvent)) (es : List SendEvent) : Prop :=
  ∃ buffer, all[d.length]? = some buffer ∧ takenOf es <+: buffer

def HasSent (all : List Bytes) (d : List (List SendEvent)) (es : List SendEvent) : Prop :=
  ∃ buffer, all[d.length]? = some buffer ∧ Sent buffer es

theorem pieces_cons (b : Option Bytes) (buffers : List (Option Bytes)) :
    pieces (b :: buffers) = (b.filter fun bytes => bytes.length ≠ 0).toList ++ pieces buffers := by
  unfold pieces
  cases hb : b.filter fun bytes => decide (bytes.length ≠ 0) with
  | none       => rw [List.filterMap_cons_none hb]; rfl
  | some bytes => rw [List.filterMap_cons_some hb]; rfl

/-- A buffer that there is nothing of to send is no section, and any other is one. -/
theorem safe_onData (handler : ConnectionHandler) (fuel : Nat) (b : Option Bytes) {all rest : List Bytes}
    {h : List (Monitor.Event SendEvent Empty)} {d : List (List SendEvent)} (hd : sectionsOf h = ⟨none, d⟩)
    (hall : all.drop d.length = (b.filter fun bytes => bytes.length ≠ 0).toList ++ rest) :
    (onData handler fuel b).Safe (Relies Takes) (Sectioned (Sending all) (HasSent all) fun _ _ => True)
      (fun h' _ => ∃ d', sectionsOf h' = ⟨none, d'⟩ ∧ all.drop d'.length = rest ∧
        d'.length = d.length + (b.filter fun bytes => bytes.length ≠ 0).toList.length) h := by
  cases b with
  | none        => exact ⟨d, hd, hall, rfl⟩
  | some buffer =>
    simp only [onData]
    by_cases hempty : buffer.length = 0
    · rw [if_pos hempty]
      have hnone : (some buffer).filter (fun bytes => decide (bytes.length ≠ 0)) = none := by
        simpa [Option.filter_some] using hempty
      rw [hnone] at hall ⊢
      exact ⟨d, hd, hall, rfl⟩
    · rw [if_neg hempty]
      have hfilter : (some buffer).filter (fun bytes => decide (bytes.length ≠ 0)) = some buffer := by
        simpa [Option.filter_some] using hempty
      rw [hfilter] at hall ⊢
      have hplace : all[d.length]? = some buffer := by
        rw [← List.head?_drop, hall]
        rfl
      apply Monitor.safe_guarded hd
      · exact ⟨buffer, hplace, List.nil_prefix⟩
      · apply ((safe_sendAll handler buffer fuel).weaken (fun _ _ hR => hR) fun es e hP => ⟨buffer, hplace, hP⟩).mono
        intro es r hsent
        refine ⟨⟨buffer, hplace, hsent⟩, fun h' hh' => ⟨es :: d, hh', ?_, rfl⟩⟩
        rw [List.length_cons, ← List.drop_drop, hall]
        rfl

theorem safe_sender (handler : ConnectionHandler) (fuel : Nat) {all : List Bytes} :
    ∀ (buffers : List (Option Bytes)) {h : List (Monitor.Event SendEvent Empty)} {d : List (List SendEvent)},
      sectionsOf h = ⟨none, d⟩ → all.drop d.length = pieces buffers →
      (sender handler fuel buffers).Safe (Relies Takes) (Sectioned (Sending all) (HasSent all) fun _ _ => True)
        (fun h' _ => ∃ d', sectionsOf h' = ⟨none, d'⟩ ∧ d'.length = d.length + (pieces buffers).length) h
  | [], h, d, hd, _           => ⟨d, hd, rfl⟩
  | b :: buffers, h, d, hd, hall => by
    rw [pieces_cons] at hall
    rw [sender, forEach, Prog.safe_bind', Prog.safe_bind, Prog.safe_attempt]
    apply (safe_onData handler fuel b hd hall).mono
    rintro h' r ⟨d', hd', hrest, hlength⟩
    have hnext := (safe_sender handler fuel buffers hd' hrest).mono fun h'' r' hr' =>
      show ∃ d'', sectionsOf h'' = ⟨none, d''⟩ ∧ d''.length = d.length + (pieces (b :: buffers)).length by
        obtain ⟨d'', hd'', hlength'⟩ := hr'
        refine ⟨d'', hd'', ?_⟩
        rw [hlength', hlength, pieces_cons, List.length_append, Nat.add_assoc]
    cases r with
    | ok a    => exact hnext
    | error e => exact hnext

/-- A thread that is through has had a section for every buffer. -/
theorem safe_sender_all (handler : ConnectionHandler) (fuel : Nat) (buffers : List (Option Bytes)) :
    (sender handler fuel buffers).Safe (Relies Takes)
      (Sectioned (Sending (pieces buffers)) (HasSent (pieces buffers)) fun _ _ => True)
      (fun h _ => (sectionsOf h).all.length = (pieces buffers).length) [] := by
  apply (safe_sender handler fuel buffers (d := []) rfl rfl).mono
  rintro h r ⟨d, hd, hlength⟩
  rw [hd]
  show d.length = _
  rw [hlength, List.length_nil, Nat.zero_add]

/-! ## The threads together -/

theorem replay_wire : ∀ {u : List (Nat × SendEvent)} {w₀ w : Wire}, replay Wire.touch w₀ u = some w →
    w.bytes = w₀.bytes ++ u.flatMap (fun x => x.2.taken) ∧
      (w.connectionError = true ↔ w₀.connectionError = true ∨ ∃ n, (n, SendEvent.storeConnectionError) ∈ u)
  | [], w₀, w, hr          => by
    cases hr
    simp
  | (n, .send offered sent errno) :: u, w₀, w, hr => by
    rw [replay, Option.bind_eq_some_iff] at hr
    obtain ⟨w₁, hw₁, hr⟩ := hr
    rw [Wire.touch, Option.ite_none_right_eq_some, Option.some.injEq] at hw₁
    obtain ⟨-, rfl⟩ := hw₁
    obtain ⟨hbytes, herror⟩ := replay_wire hr
    constructor
    · rw [hbytes, List.flatMap_cons, ← List.append_assoc]
      rfl
    · rw [herror]
      simp
  | (n, .storeConnectionError) :: u, w₀, w, hr => by
    rw [replay, Option.bind_eq_some_iff] at hr
    obtain ⟨w₁, hw₁, hr⟩ := hr
    cases hw₁
    obtain ⟨hbytes, herror⟩ := replay_wire hr
    constructor
    · rw [hbytes, List.flatMap_cons]
      rfl
    · rw [herror]
      simp

theorem flatMap_flat (parts : List (Nat × List SendEvent)) :
    (flat parts).flatMap (fun x => x.2.taken) = parts.reverse.flatMap fun part => takenOf part.2 := by
  simp [flat, takenOf, List.flatMap_assoc, List.flatMap_map, -List.map_reverse]

theorem takes_of_alone (n : Nat) (es : List SendEvent) (e : SendEvent) (h : Monitor.Alone Wire.touch n es e) :
    Takes es e := by
  obtain ⟨_, w₂, w₃, -, htouch⟩ := h
  cases e with
  | send offered sent errno  => exact (Option.ite_none_right_eq_some.1 htouch).1
  | storeConnectionError     => trivial

section Untorn

variable {handler : ConnectionHandler} {fuel : Nat} {buffers : Nat → List (Option Bytes)}
  {t : List (Nat × Monitor.Event SendEvent Empty)} {s : Monitor.State Nat Wire}

/-- An error that a section has stored is in the flag. -/
theorem error_of_mem (h : Monitor.Serial Wire.touch {} t s) {n : Nat} {es : List SendEvent}
    (hes : es ∈ ofActor n (order t)) (hstored : .storeConnectionError ∈ es) : s.shared.connectionError = true := by
  rw [h.own n] at hes
  apply (replay_wire h.replays).2.2
  exact .inr ⟨n, Monitor.mem_insides.2 (h.mem_iff.1 ⟨es, hes, hstored⟩)⟩

/-- **No buffer is torn by another on its way into the socket**, and of none is a part lost unnoticed. -/
theorem sends_untorn (hx : Execution (Monitor.step Wire.touch) (fun n => sender handler fuel (buffers n))
    { shared := {} } t s) : Untorn handler fuel buffers t s := by
  have hsafe := fun n => safe_sender_all handler fuel (buffers n)
  obtain ⟨horderly, hrelies⟩ := Monitor.orderly takes_of_alone hsafe hx
  have hserial := horderly.serial
  constructor
  · rw [(replay_wire hserial.replays).1, ← hserial.insides, flatMap_flat]
    rfl
  · intro n i es hes
    have hmem : es ∈ ofActor n (order t) := List.mem_reverse.1 (List.mem_of_getElem? hes)
    rw [sectionsBy, hserial.own n] at hes
    rcases (horderly.accounted n).get hes with hover | hin
    · obtain ⟨d, rfl, buffer, hplace, hpre, hsent⟩ := hover
      exact ⟨buffer, hplace, hpre, hsent.imp id fun hstored => .inl (error_of_mem hserial hmem hstored)⟩
    · obtain ⟨hcurrent, rfl, buffer, hplace, hpre⟩ := hin
      refine ⟨buffer, hplace, hpre, .inr (.inr ⟨(hserial.holder n).2 (by rw [hcurrent]; rfl), ?_⟩)⟩
      rw [sectionsBy, hserial.own n, Monitor.Sections.all, hcurrent]
      simp
  · intro n hdone
    have hlength := (hsafe n).post hdone (hrelies n)
    rw [List.append_nil] at hlength
    rw [sectionsBy, List.length_reverse, hserial.own n]
    exact hlength

end Untorn

/-! ## Two threads, the first buffer in two pieces -/

def demoBuffers (n : Nat) : List (Option Bytes) :=
  if n = 0 then [some [1, 2, 3]] else if n = 1 then [none, some [4]] else []

def demoSends : List (Nat × Monitor.Event SendEvent Empty) :=
  [(0, .acquire), (0, .inside (.send [1, 2, 3] 2 [])), (0, .inside (.send [3] 1 [])), (0, .release), (1, .acquire),
    (1, .inside (.send [4] 1 [])), (1, .release)]

theorem demoSends_execution : Execution (Monitor.step Wire.touch)
    (fun n => sender .client 3 (demoBuffers n)) { shared := {} } demoSends { shared := { bytes := [1, 2, 3, 4] } } := by
  refine ⟨rfl, fun n => ?_⟩
  match n with
  | 0 =>
    exact ⟨.done (), Prog.runs_ask.2 ⟨(), rfl, Prog.runs_ask.2 ⟨(2, []), rfl, Prog.runs_ask.2 ⟨(1, []), rfl,
      Prog.runs_ask.2 ⟨(), rfl, rfl, rfl⟩⟩⟩⟩⟩
  | 1 =>
    exact ⟨.done (), Prog.runs_ask.2 ⟨(), rfl, Prog.runs_ask.2 ⟨(1, []), rfl, Prog.runs_ask.2 ⟨(), rfl, rfl, rfl⟩⟩⟩⟩
  | n + 2 => exact ⟨.done (), rfl, rfl⟩

theorem sends_untorn_demo :
    Untorn .client 3 demoBuffers demoSends { shared := { bytes := [1, 2, 3, 4] } } := sends_untorn demoSends_execution

end RabbitMq
end Graftcode
