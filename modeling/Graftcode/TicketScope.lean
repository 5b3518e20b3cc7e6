import Graftcode.Erasure
import Graftcode.PendingDelivery
import Graftcode.ProgRuns
/-!
# TicketScope — a call around its ticket

What a client's `Call` does with `PendingReplies`: it registers its id, sends, waits, and destroys the ticket whichever way
that ends.  The outside may be any, and so may the exceptions: `pending` says how a step of the map is seen in it, `std` what
`Register` throws, and `send` is whatever the client sends its request with.
-/
namespace Graftcode
namespace PendingReplies

open Prog (emit ofExcept)

variable {ε Ev : Type}

/-- `pending_.Register(id)`; the exception it throws is a `std::runtime_error`. -/
def register (pending : Event → Ev) (std : Text → ε) (id : Text) : Prog ε Ev SlotRef :=
  emit (fun r : Except Text SlotRef => pending (match r with
    | .ok slot    => .registered id slot
    | .error what => .refused id what)) >>= fun r => ofExcept (r.mapError std)

def destroyTicket (pending : Event → Ev) : Prog ε Ev Unit := emit fun _ : Unit => pending .destroyed

/-- `ticket.Wait(timeout, response)`, and what the call makes of it. -/
def wait (pending : Event → Ev) (waited : WaitResult → Except ε Bytes) (slot : SlotRef) : Prog ε Ev Bytes :=
  emit (fun r : WaitResult => pending (.waited slot r)) >>= fun r => ofExcept (waited r)

/-- What a call makes of `Wait`: an exception of its own on a timeout. -/
def waitedOr (timedOut : ε) (std : Text → ε) : WaitResult → Except ε Bytes
  | .timedOut       => .error timedOut
  | .threw what     => .error (std what)
  | .returned bytes => .ok bytes

theorem waitedOr_eq_ok {timedOut : ε} {std : Text → ε} {r : WaitResult} {bytes : Bytes}
    (hr : waitedOr timedOut std r = .ok bytes) : r = .returned bytes := by
  cases r with
  | timedOut   => cases hr
  | threw what => cases hr
  | returned b => cases hr; rfl

def withTicket (pending : Event → Ev) (std : Text → ε) (id : Text) (send : Prog ε Ev Unit)
    (waited : WaitResult → Except ε Bytes) : Prog ε Ev Bytes := do
  let slot ← register pending std id
  let response ← (do
    send
    wait pending waited slot).tryCatch fun e => do
      destroyTicket pending
      Prog.throw e
  destroyTicket pending
  pure response

/-! ## What it keeps to -/

/-- An event that is none of the map's. -/
def Quiet (pending : Event → Ev) (_h : List Ev) (e : Ev) : Prop := ∀ event, e ≠ pending event

def Unwaited (pending : Event → Ev) (h : List Ev) : Prop := ∀ slot r, pending (.waited slot r) ∉ h

/-- A call registers only an id of its own, waits once, on a slot it registered, and finishes no id. -/
structure CallsOnce (pending : Event → Ev) (Own : Text → List Ev → Prop) (h : List Ev) (e : Ev) : Prop where
  registers : ∀ id slot, e = pending (.registered id slot) → Own id h
  waits : ∀ slot r, e = pending (.waited slot r) → (∃ id, pending (.registered id slot) ∈ h) ∧ Unwaited pending h
  finishes : ∀ event id, e = pending event → finishFor id event = none

/-- A call that returns has waited for what it returns. -/
def Returned (pending : Event → Ev) (waited : WaitResult → Except ε Bytes) (h : List Ev) (r : Except ε Bytes) : Prop :=
  ∀ bytes, r = .ok bytes → ∃ slot result, pending (.waited slot result) ∈ h ∧ waited result = .ok bytes

variable {pending : Event → Ev} {std : Text → ε} {Own : Text → List Ev → Prop} {id : Text} {send : Prog ε Ev Unit}
  {waited : WaitResult → Except ε Bytes} {h : List Ev} {e : Ev}

theorem Unwaited.cons (hu : Unwaited pending h) (he : ∀ slot r, e ≠ pending (.waited slot r)) :
    Unwaited pending (e :: h) := by
  intro slot r hm
  rcases List.mem_cons.1 hm with heq | hm
  · exact he slot r heq.symm
  · exact hu slot r hm

theorem callsOnce_quiet (he : Quiet pending h e) : CallsOnce pending Own h e where
  registers _ _ heq := absurd heq (he _)
  waits _ _ heq := absurd heq (he _)
  finishes _ _ heq := absurd heq (he _)

theorem callsOnce_pending (hp : Function.Injective pending) {event : Event}
    (hr : ∀ id slot, event ≠ .registered id slot) (hw : ∀ slot r, event ≠ .waited slot r)
    (hf : ∀ id, finishFor id event = none) : CallsOnce pending Own h (pending event) where
  registers _ _ heq := absurd (hp heq) (hr _ _)
  waits _ _ heq := absurd (hp heq) (hw _ _)
  finishes event' id heq := by
    obtain rfl := hp heq
    exact hf id

theorem callsOnce_destroyed (hp : Function.Injective pending) : CallsOnce pending Own h (pending .destroyed) :=
  callsOnce_pending hp nofun nofun fun _ => rfl

theorem callsOnce_registered (hp : Function.Injective pending) (ho : Own id h) (slot : SlotRef) :
    CallsOnce pending Own h (pending (.registered id slot)) where
  registers id' slot' heq := by
    cases hp heq
    exact ho
  waits _ _ heq := nomatch hp heq
  finishes event id' heq := by
    cases hp heq
    rfl

theorem callsOnce_waited (hp : Function.Injective pending) {slot : SlotRef} (hr : pending (.registered id slot) ∈ h)
    (hu : Unwaited pending h) (r : WaitResult) : CallsOnce pending Own h (pending (.waited slot r)) where
  registers _ _ heq := nomatch hp heq
  waits slot' r' heq := by
    cases hp heq
    exact ⟨⟨id, hr⟩, hu⟩
  finishes event id' heq := by
    cases hp heq
    rfl

/-- A part of a call that leaves the map alone loses nothing the call knows of it. -/
theorem safe_quiet {α : Type} {p : Prog ε Ev α} {P : List Ev → Prop} (hP : ∀ h e, Quiet pending h e → P h → P (e :: h))
    (hp : p.Safe (fun _ _ => True) (Quiet pending) (fun _ _ => True) h) (hh : P h) :
    p.Safe (fun _ _ => True) (CallsOnce pending Own) (fun h' _ => P h') h := by
  have hkept := hp.preserve hP hh
  exact (hkept.weaken (fun _ _ hr => hr) fun _ _ he => callsOnce_quiet he).mono fun _ _ hq => hq.1

/-- **The rule of a ticket**: `P` is what sending leaves of the slot, and what a wait on it may rely on. -/
theorem safe_withTicket_of {G : List Ev → Ev → Prop} {P : SlotRef → List Ev → Prop} {Q : List Ev → Except ε Bytes → Prop}
    (hrefused : ∀ what, G h (pending (.refused id what)))
    (hregistered : ∀ slot, G h (pending (.registered id slot)))
    (hsend : ∀ slot, send.Safe (fun _ _ => True) G (fun h' _ => P slot h') (pending (.registered id slot) :: h))
    (hwaited : ∀ slot h result, P slot h → G h (pending (.waited slot result)))
    (hdestroyed : ∀ h, G h (pending .destroyed))
    (hthrew : ∀ h e, Q h (.error e))
    (hreturned : ∀ slot h result bytes, P slot h → waited result = .ok bytes →
      Q (pending .destroyed :: pending (.waited slot result) :: h) (.ok bytes)) :
    (withTicket pending std id send waited).Safe (fun _ _ => True) G Q h := by
  unfold withTicket register destroyTicket
  simp only [Prog.safe_bind, Prog.safe_emit, Prog.andThen_ok, Prog.safe_ofExcept]
  intro result _
  cases result with
  | error what => exact ⟨hrefused what, hthrew _ _⟩
  | ok slot =>
    refine ⟨hregistered slot, ?_⟩
    simp only [Except.mapError, Prog.andThen_ok, Prog.safe_bind, Prog.safe_tryCatch]
    refine (hsend slot).mono fun h' r hh => ?_
    cases r with
    | error e => exact fun _ _ => ⟨hdestroyed _, hthrew _ _⟩
    | ok u =>
      simp only [Prog.andThen_ok, wait, Prog.safe_bind, Prog.safe_emit, Prog.safe_ofExcept]
      intro result _
      refine ⟨hwaited slot h' result hh, ?_⟩
      cases hw : waited result with
      | error e     => exact fun _ _ => ⟨hdestroyed _, hthrew _ _⟩
      | ok response => exact fun _ _ => ⟨hdestroyed _, hreturned slot h' result response hh hw⟩

theorem safe_withTicket (hp : Function.Injective pending) (ho : Own id h) (hu : Unwaited pending h)
    (hsend : ∀ h, send.Safe (fun _ _ => True) (Quiet pending) (fun _ _ => True) h) :
    (withTicket pending std id send waited).Safe (fun _ _ => True) (CallsOnce pending Own) (Returned pending waited)
      h := by
  -- what sending leaves as it was
  have hkeep : ∀ slot h e, Quiet pending h e → (pending (.registered id slot) ∈ h ∧ Unwaited pending h) →
      pending (.registered id slot) ∈ e :: h ∧ Unwaited pending (e :: h) :=
    fun slot h e he hh => ⟨List.mem_cons_of_mem _ hh.1, hh.2.cons fun _ _ => he _⟩
  have hunwaited : ∀ slot, Unwaited pending (pending (.registered id slot) :: h) :=
    fun slot => hu.cons fun _ _ heq => nomatch hp heq
  refine safe_withTicket_of (P := fun slot h => pending (.registered id slot) ∈ h ∧ Unwaited pending h) ?_ ?_ ?_ ?_ ?_ ?_ ?_
  · exact fun what => callsOnce_pending hp nofun nofun fun _ => rfl
  · exact callsOnce_registered hp ho
  · exact fun slot => safe_quiet (hkeep slot) (hsend _) ⟨List.mem_cons_self, hunwaited slot⟩
  · exact fun slot h result hh => callsOnce_waited hp hh.1 hh.2 result
  · exact fun h => callsOnce_destroyed hp
  · exact fun _ _ _ heq => by cases heq
  · intro slot h result bytes _ hw bytes' hb
    cases hb
    exact ⟨slot, result, by simp, hw⟩

/-- What the events of the map that finish no id have for free, a call has when its `send` does. -/
theorem keeps_withTicket {G : List Ev → Ev → Prop}
    (hG : ∀ h event, (∀ id, finishFor id event = none) → G h (pending event))
    (hsend : ∀ slot, Prog.Keeps (fun _ _ => True) G send (pending (.registered id slot) :: h)) :
    Prog.Keeps (fun _ _ => True) G (withTicket pending std id send waited) h :=
  safe_withTicket_of (P := fun _ _ => True) (fun _ => hG _ _ fun _ => rfl) (fun _ => hG _ _ fun _ => rfl) hsend
    (fun _ _ _ _ => hG _ _ fun _ => rfl) (fun _ => hG _ _ fun _ => rfl) (fun _ _ => trivial) fun _ _ _ _ _ _ => trivial

/-! ## Seen in part -/

/-- Seen through `f`, a call around its ticket is the call around what is seen of its sending. -/
theorem erases_withTicket {Ev' : Type} {f : Ev → Option Ev'} {pending' : Event → Ev'} {send' : Prog ε Ev' Unit}
    (hf : ∀ event, f (pending event) = some (pending' event)) (hsend : Prog.Erases f send send') :
    Prog.Erases f (withTicket pending std id send waited) (withTicket pending' std id send' waited) := by
  have hregister : Prog.Erases f (register pending std id) (register pending' std id) :=
    Prog.Erases.bind (fun r => Prog.erases_ofExcept _) (Prog.erases_emit fun r => hf _)
  have hwait : ∀ slot, Prog.Erases f (wait pending waited slot) (wait pending' waited slot) :=
    fun slot => Prog.Erases.bind (fun r => Prog.erases_ofExcept _) (Prog.erases_emit fun r => hf _)
  have hdestroy : Prog.Erases f (destroyTicket pending : Prog ε Ev Unit) (destroyTicket pending') :=
    Prog.erases_emit fun _ => hf _
  apply hregister.bind
  intro slot
  apply Prog.Erases.bind
  · exact fun response => hdestroy.bind fun _ => Prog.erases_pure response
  apply Prog.Erases.tryCatch
  · exact fun e => hdestroy.bind fun _ => Prog.erases_throw e
  exact hsend.bind fun _ => hwait slot

end PendingReplies
end Graftcode
