/-
  Withdrawing prizes.

  * `WithdrawalOrder`: the payment request to be paid, and the fee that is left for routing.
  * `WithdrawalStep`: how far a withdrawal is. Between its two requests anything may happen to the
    session.
  * `Session.beginWithdrawal`, `Session.resumeWithdrawal`: the steps.
  * `Session.withdraw`: all steps, with a server that takes no time.
-/
import LightningLottery.Session.Basic

namespace LightningLottery

/-- What is to be withdrawn. -/
structure WithdrawalOrder where
  /-- The payment request to be paid. -/
  request : String
  /-- What is left of the prizes for routing. -/
  fee : UInt64
  deriving DecidableEq, Repr

/-- A withdrawal that the server has accepted. -/
structure PendingWithdrawal where
  invoice : Invoice
  status : String
  paymentId : PaymentId
  deriving DecidableEq, Repr

/-- How far a withdrawal is. -/
inductive WithdrawalStep where
  /-- The server is asked for the prizes. -/
  | askingPrizes (flight : Flight PrizesReply)
  /-- The server is asked to pay this invoice. -/
  | askingPayout (invoice : Invoice) (flight : Flight WithdrawReply)
  | ended (result : Except Error PendingWithdrawal)

namespace Session

variable {Tag : Type}

/-- Checks an order against the prizes, and asks the server to pay it in the name of the identity
    that the session has now. -/
def requestPayout (s : Session Tag) (now : UInt64) (order : WithdrawalOrder)
    (reply : PrizesReply) : Except Error (Invoice × Flight WithdrawReply) := do
  let max ← withdrawable reply.prizes order.fee
  let invoice ← validateInvoice order.request s.config.bolt11Prefix none (some max) now
  let signature ← s.identity.signature
  let flight ← s.api.launch (.withdraw signature order.request s.identity.publicKey order.fee)
  return (invoice, flight)

/-- Ends a withdrawal with what the server replied: only one that it accepted is waited for. -/
def endWithdrawal (s : Session Tag) (invoice : Invoice) (result : Except Error WithdrawReply) :
    Session Tag × Except Error PendingWithdrawal :=
  match result with
  | .ok reply => (s.track .payments reply.paymentId, .ok ⟨invoice, reply.status, reply.paymentId⟩)
  | .error e => (s, .error e)

/-- The first step of a withdrawal. -/
def beginWithdrawal (s : Session Tag) : WithdrawalStep :=
  match s.api.launch .prizes with
  | .ok flight => .askingPrizes flight
  | .error e => .ended (.error e)

/-- The next step of a withdrawal, `ready` being what became of its request so far. -/
def resumeWithdrawal (s : Session Tag) (now : UInt64) (order : WithdrawalOrder)
    (ready : Option Exchange) : WithdrawalStep → Session Tag × WithdrawalStep
  | .askingPrizes flight =>
    match s.api.poll flight ready with
    | none => (s, .askingPrizes flight)
    | some result =>
      match result.bind (s.requestPayout now order) with
      | .ok (invoice, flight) => (s, .askingPayout invoice flight)
      | .error e => (s, .ended (.error e))
  | .askingPayout invoice flight =>
    match s.api.poll flight ready with
    | none => (s, .askingPayout invoice flight)
    | some result =>
      let (s, result) := s.endWithdrawal invoice result
      (s, .ended result)
  | .ended result => (s, .ended result)

/-- Withdraws prizes with a server that takes no time. -/
def withdraw (s : Session Tag) (server : ApiClient.Server) (now : UInt64)
    (order : WithdrawalOrder) : Session Tag × Except Error PendingWithdrawal :=
  match (s.api.ask server .prizes).bind (s.requestPayout now order) with
  | .ok (invoice, flight) =>
    s.endWithdrawal invoice (s.api.land flight (server flight.request))
  | .error e => (s, .error e)

end Session
end LightningLottery
