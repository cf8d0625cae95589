/-
  What listeners do with the payloads of events.

  * `Listener`: hands payloads on, reads them first, or settles payments by them.
  * `PaymentTrackers`: the payments under way, of bets and of withdrawals.
  * `Listener.receive`, `receiveAll`: what becomes of the trackers, and what is handed on.
-/
import LightningLottery.Stream.Loop
import LightningLottery.Wire.Event

namespace LightningLottery

/-- Which payments are meant. -/
inductive PaymentChannel where
  /-- Payments for bets. -/
  | invoices
  /-- Payments of withdrawals. -/
  | payments
  deriving DecidableEq, Repr

/-- The event by which a channel tells how payments ended. -/
def PaymentChannel.event : PaymentChannel → EventType
  | .invoices => .invoices
  | .payments => .payments

/-- How a payment ended, as a payload tells it, if it fits the event of the channel. -/
def PaymentChannel.outcome? (channel : PaymentChannel) (payload : Json) : Option PaymentOutcome :=
  match channel with
  | .invoices => ((Wire.ofJson payload).toOption.map fun o : BetOutcome => o.outcome)
  | .payments => ((Wire.ofJson payload).toOption.map fun o : WithdrawalOutcome => o.outcome)

/-- The payments under way. -/
structure PaymentTrackers where
  invoices : PaymentTracker
  payments : PaymentTracker
  deriving DecidableEq, Repr

namespace PaymentTrackers

/-- No payment is under way. -/
def empty : PaymentTrackers := ⟨.empty, .empty⟩

/-- The payments of a channel. -/
def get (ts : PaymentTrackers) : PaymentChannel → PaymentTracker
  | .invoices => ts.invoices
  | .payments => ts.payments

/-- Changes the payments of a channel. -/
def update (ts : PaymentTrackers) (channel : PaymentChannel)
    (change : PaymentTracker → PaymentTracker) : PaymentTrackers :=
  match channel with
  | .invoices => { ts with invoices := change ts.invoices }
  | .payments => { ts with payments := change ts.payments }

/-- Forgets all payments. -/
def clear (ts : PaymentTrackers) : PaymentTrackers := ⟨ts.invoices.clear, ts.payments.clear⟩

end PaymentTrackers

/-- What is done with a payload. -/
inductive Listener (Tag : Type) where
  /-- It is handed on as it is. -/
  | raw (tag : Tag)
  /-- It is read as the payload of an event, and handed on if it fits. -/
  | typed (event : EventType) (tag : Tag)
  /-- It settles a payment of the channel. -/
  | tracker (channel : PaymentChannel)
  deriving DecidableEq, Repr

namespace Listener

variable {Tag : Type}

/-- A payload read as one of an event and written again, if it fits. -/
def reread? (event : EventType) (payload : Json) : Option Json :=
  match event with
  | .info => ((Wire.ofJson payload).toOption.map fun o : LotteryChange => Wire.toJson o)
  | .invoices => ((Wire.ofJson payload).toOption.map fun o : BetOutcome => Wire.toJson o)
  | .payments => ((Wire.ofJson payload).toOption.map fun o : WithdrawalOutcome => Wire.toJson o)

/-- What a listener does with a payload: the trackers after it, and what it hands on. -/
def receive (ts : PaymentTrackers) : Listener Tag → Json → PaymentTrackers × Option (Tag × Json)
  | .raw tag, payload => (ts, some (tag, payload))
  | .typed event tag, payload => (ts, (reread? event payload).map fun value => (tag, value))
  | .tracker channel, payload =>
    match channel.outcome? payload with
    | some outcome => (ts.update channel fun t => (t.observe outcome).1, none)
    | none => (ts, none)

/-- What calls lead to, one after the other. -/
def receiveAll (ts : PaymentTrackers) :
    List (Call (Listener Tag)) → PaymentTrackers × List (Tag × Json)
  | [] => (ts, [])
  | (listener, payload) :: calls =>
    let (next, given) := listener.receive ts payload
    let (last, more) := receiveAll next calls
    (last, given.toList ++ more)

end Listener

/-- Lets the tracker of a channel hear the event of the channel. -/
def EventStream.attach {Tag : Type} (s : EventStream (Listener Tag)) (channel : PaymentChannel) :
    EventStream (Listener Tag) × Nat :=
  s.subscribe channel.event.name (.tracker channel)

end LightningLottery
