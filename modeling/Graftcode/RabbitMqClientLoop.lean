import Graftcode.RabbitMqServer
/-!
# RabbitMqClientLoop — the receive loop of the RabbitMQ client

`RabbitMqRpcClient::Link::Run` of `RabbitMqClient.cpp`, over what it reads and calls: `Surroundings`.  The callbacks that
run inside `connection_->parse` touch neither the buffer nor the loop; what they set is read again through the flags.  Here
a `parse` is one event; in `RabbitMqClient` it is the callbacks it runs.
-/
namespace Graftcode
namespace RabbitMqLink

open Prog (emit call iterate)
open RabbitMq (Received)

inductive WaitStatus where
  | readable
  | timeout
  | error

/-- What `Run` reads and calls. -/
structure Surroundings (Ev : Type) where
  stopping : Bool → Ev
  broken : Bool → Ev
  connectionError : Bool → Ev
  connectionClosed : Bool → Ev
  waitForSocketReadable : WaitStatus → Ev
  recv : Received → Ev
  lockAmqp : Prog Exn Ev Unit
  parse : Bytes → Prog Exn Ev Nat
  disconnect : Text → Prog Exn Ev Unit

namespace Surroundings

variable {Ev : Type} (around : Surroundings Ev)

/-- `while (!pendingBytes.empty())`. -/
def parsePending : Nat → Bytes → Prog Exn Ev Bytes :=
  iterate fun pendingBytes =>
    if pendingBytes.isEmpty then pure (.inr pendingBytes)
    else do
      let parsed ← around.parse pendingBytes
      if parsed = 0 ∨ pendingBytes.length < parsed then pure (.inr pendingBytes)
      else pure (.inl (pendingBytes.drop parsed))

/-- `!stopping_ && !broken_`. -/
def goesOn : Prog Exn Ev Bool := do
  let stopping ← emit around.stopping
  if stopping then pure false
  else do
    let broken ← emit around.broken
    pure !broken

/-- `connectionError || connectionClosed`. -/
def connectionLost : Prog Exn Ev Bool := do
  let connectionError ← emit around.connectionError
  if connectionError then pure true else emit around.connectionClosed

/-- `Disconnect` and `return`. -/
def leave (error : String) (pendingBytes : Bytes) : Prog Exn Ev (Bytes ⊕ Bytes) := do
  around.disconnect error.toList
  pure (.inr pendingBytes)

/-- A turn from `recv` on. -/
def read (fuel : Nat) (pendingBytes : Bytes) : Prog Exn Ev (Bytes ⊕ Bytes) := do
  let received ← emit around.recv
  match received with
  | .closed      => around.leave "RabbitMQ: connection closed by broker" pendingBytes
  | .wouldBlock  => pure (.inl pendingBytes)
  | .error _     => around.leave "RabbitMQ: socket read failed" pendingBytes
  | .bytes chunk => do
    around.lockAmqp
    let pendingBytes ← around.parsePending fuel (pendingBytes ++ chunk)
    pure (.inl pendingBytes)

/-- `Link::Run`, with the bytes it leaves in the buffer; every loop runs for as long as it is observed. -/
def run (fuel : Nat) : Nat → Bytes → Prog Exn Ev Bytes :=
  iterate fun pendingBytes => do
    let on ← around.goesOn
    if !on then pure (.inr pendingBytes)
    else do
      let lost ← around.connectionLost
      if lost then around.leave "RabbitMQ: connection lost" pendingBytes
      else do
        let status ← emit around.waitForSocketReadable
        match status with
        | .timeout  => pure (.inl pendingBytes)
        | .error    => around.leave "RabbitMQ: socket error" pendingBytes
        | .readable => around.read fuel pendingBytes

end Surroundings

/-! ## With `parse` as one event -/

inductive Event where
  | stopping (b : Bool)
  | broken (b : Bool)
  | connectionError (b : Bool)
  | connectionClosed (b : Bool)
  | waitForSocketReadable (status : WaitStatus)
  | recv (received : Received)
  | lockAmqp
  | parse (pending : Bytes) (parsed : Except Exn Nat)
  | disconnect (error : Text)

def surroundings : Surroundings Event where
  stopping := Event.stopping
  broken := Event.broken
  connectionError := Event.connectionError
  connectionClosed := Event.connectionClosed
  waitForSocketReadable := Event.waitForSocketReadable
  recv := Event.recv
  lockAmqp := emit fun _ : Unit => Event.lockAmqp
  parse := fun pendingBytes => call (Event.parse pendingBytes)
  disconnect := fun error => emit fun _ : Unit => Event.disconnect error

abbrev parsePending : Nat → Bytes → Prog Exn Event Bytes := surroundings.parsePending

abbrev receiveLoop (fuel : Nat) : Nat → Bytes → Prog Exn Event Bytes := surroundings.run fuel

end RabbitMqLink
end Graftcode
