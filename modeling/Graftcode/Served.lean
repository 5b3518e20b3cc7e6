import Graftcode.Cpp
/-!
# Served — what a queue consumer owes before it settles a request

A consumer takes a request from a queue, hands it to its handler, may owe a reply, and then tells the queue to forget the
request.  `Served` is said of the history at that moment, latest event first: the handler succeeded on the payload, the
reply it wrote was accepted at the place the request named, and in between nothing happened but quiet events.
-/
namespace Graftcode

/-- A request as its consumer reads it; `replyTo` is `none` when no reply is owed. -/
structure Request where
  payload : Bytes
  correlationId : Option Text
  replyTo : Option Text

/-- How the events of a consumer are read: the handler's success on a payload with what it wrote, a reply that was
accepted, and events that touch no request. -/
structure Consumer (Ev : Type) where
  processed : Bytes → List (Option Bytes) → Ev
  replied : (dest : Text) → (correlationId : Option Text) → (response : Bytes) → Ev → Prop
  quiet : Ev → Prop

namespace Consumer

variable {Ev : Type}

/-- The history begins with the success of `request`. -/
def Served (consumer : Consumer Ev) (request : Request) (h : List Ev) : Prop :=
  ∃ writes earlier, match request.replyTo with
    | none      => h = consumer.processed request.payload writes :: earlier
    | some dest =>
      ∃ reply between, h = reply :: (between ++ consumer.processed request.payload writes :: earlier) ∧
        (∀ e ∈ between, consumer.quiet e) ∧ consumer.replied dest request.correlationId (responseOf writes) reply

variable {consumer : Consumer Ev} {request : Request} {h : List Ev}

theorem served_of_none {writes : List (Option Bytes)} {earlier : List Ev} (hr : request.replyTo = none)
    (hh : h = consumer.processed request.payload writes :: earlier) : consumer.Served request h :=
  ⟨writes, earlier, by rw [hr]; exact hh⟩

theorem served_of_some {writes : List (Option Bytes)} {earlier between : List Ev} {reply : Ev} {dest : Text}
    (hr : request.replyTo = some dest)
    (hh : h = reply :: (between ++ consumer.processed request.payload writes :: earlier))
    (hq : ∀ e ∈ between, consumer.quiet e)
    (hd : consumer.replied dest request.correlationId (responseOf writes) reply) : consumer.Served request h :=
  ⟨writes, earlier, by rw [hr]; exact ⟨reply, between, hh, hq, hd⟩⟩

end Consumer
end Graftcode
