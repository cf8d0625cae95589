/-
  Placing a bet.

  * `BetStep`: how far a bet is; a bet that waits for the server goes on when something becomes of
    its request.
  * `Session.beginBet`, `Session.resumeBet`: the steps.
  * `Session.placeBet`: all steps, with a server that takes no time.
-/
import LightningLottery.Session.Basic

namespace LightningLottery

/-- A bet that waits to be paid. -/
structure PendingBet where
  /-- The payment request for the user. -/
  request : String
  invoice : Invoice
  paymentId : PaymentId
  deriving DecidableEq, Repr

/-- How far a bet is. -/
inductive BetStep where
  /-- The server is asked for a payment request of this amount. -/
  | asking (amount : UInt64) (flight : Flight InvoiceReply)
  | ended (result : Except Error PendingBet)

namespace Session

variable {Tag : Type}

/-- The request for a payment request of an amount, which must not be zero. -/
def requestInvoice (s : Session Tag) (amount : UInt64) : Except Error (Flight InvoiceReply) :=
  if amount = 0 then .error (.validation .invalidAmount) else s.api.launch (.invoice amount)

/-- Checks the payment request that the server replied with. -/
def acceptBet (s : Session Tag) (now amount : UInt64) (reply : InvoiceReply) :
    Except Error PendingBet := do
  let invoice ← validateInvoice reply.invoice s.config.bolt11Prefix (some amount) none now
  return ⟨reply.invoice, invoice, reply.paymentId⟩

/-- Ends a bet with what the server replied: only a bet that passes is waited for. -/
def endBet (s : Session Tag) (now amount : UInt64) (result : Except Error InvoiceReply) :
    Session Tag × Except Error PendingBet :=
  match result.bind (s.acceptBet now amount) with
  | .ok bet => (s.track .invoices bet.paymentId, .ok bet)
  | .error e => (s, .error e)

/-- The first step of a bet. -/
def beginBet (s : Session Tag) (amount : UInt64) : BetStep :=
  match s.requestInvoice amount with
  | .ok flight => .asking amount flight
  | .error e => .ended (.error e)

/-- The next step of a bet, `ready` being what became of its request so far. -/
def resumeBet (s : Session Tag) (now : UInt64) (ready : Option Exchange) :
    BetStep → Session Tag × BetStep
  | .asking amount flight =>
    match s.api.poll flight ready with
    | none => (s, .asking amount flight)
    | some result =>
      let (s, result) := s.endBet now amount result
      (s, .ended result)
  | .ended result => (s, .ended result)

/-- Places a bet with a server that takes no time. -/
def placeBet (s : Session Tag) (server : ApiClient.Server) (now amount : UInt64) :
    Session Tag × Except Error PendingBet :=
  match s.requestInvoice amount with
  | .ok flight => s.endBet now amount (s.api.land flight (server flight.request))
  | .error e => (s, .error e)

end Session
end LightningLottery
