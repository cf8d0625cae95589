/-
  Payments under way and those who wait for them.

  * `PaymentStatus`, `PaymentOutcome`: how a payment ended.
  * `PaymentTracker`: the ids under way, and every waiter so far with what became of it.
  * `track`, `observe`, `clear`, `dropWaiter`: what can happen to them.
-/

namespace LightningLottery

/-- How a payment ended. -/
inductive PaymentStatus where
  | failed
  | success
  deriving DecidableEq, Repr

namespace PaymentStatus

/-- The status of a number; every number but one is a failure. -/
def ofNumber (n : Nat) : PaymentStatus := if n = 1 then .success else .failed

/-- The number of a status. -/
def number : PaymentStatus → Nat
  | .failed => 0
  | .success => 1

end PaymentStatus

/-- The number by which the server knows a payment. -/
abbrev PaymentId := UInt64

/-- The end of a payment, with the server's reason for a failure. -/
structure PaymentOutcome where
  paymentId : PaymentId
  status : PaymentStatus
  reason : String
  deriving DecidableEq, Repr

/-- Whether the payment was made. -/
def PaymentOutcome.isSuccess (outcome : PaymentOutcome) : Bool := outcome.status == .success

/-- What became of a waiter. -/
inductive Waiter where
  /-- It waits for this payment. -/
  | pending (id : PaymentId)
  | settled (outcome : PaymentOutcome)
  /-- Its payment was forgotten first. -/
  | aborted
  /-- Nobody listens to it any more. -/
  | dropped
  deriving DecidableEq, Repr

namespace Waiter

/-- Tells a waiter the end of a payment. -/
def settle (outcome : PaymentOutcome) : Waiter → Waiter
  | .pending id => if id = outcome.paymentId then .settled outcome else .pending id
  | w => w

/-- Tells a waiter that its payment is forgotten. -/
def abort : Waiter → Waiter
  | .pending _ => .aborted
  | w => w

end Waiter

/-- The payments under way and all waiters so far, the first first. -/
structure PaymentTracker where
  tracked : List PaymentId
  waiters : List Waiter
  deriving DecidableEq, Repr

namespace PaymentTracker

/-- No payment is under way. -/
def empty : PaymentTracker := ⟨[], []⟩

/-- Whether a payment is under way. -/
def isTracking (t : PaymentTracker) (id : PaymentId) : Bool := t.tracked.contains id

/-- The number of payments under way. -/
def size (t : PaymentTracker) : Nat := t.tracked.length

/-- Whether no payment is under way. -/
def isEmpty (t : PaymentTracker) : Bool := t.size == 0

/-- Adds a waiter for a payment. -/
def track (t : PaymentTracker) (id : PaymentId) : PaymentTracker where
  tracked := if t.isTracking id then t.tracked else t.tracked ++ [id]
  waiters := t.waiters ++ [.pending id]

/-- Records the end of a payment; tells whether it was under way. The end of any other payment is
    passed over, and not remembered. -/
def observe (t : PaymentTracker) (outcome : PaymentOutcome) : PaymentTracker × Bool :=
  if t.isTracking outcome.paymentId then
    ({ tracked := t.tracked.filter (· != outcome.paymentId)
       waiters := t.waiters.map (Waiter.settle outcome) }, true)
  else (t, false)

/-- Forgets all payments; those who wait for them are told so. -/
def clear (t : PaymentTracker) : PaymentTracker := ⟨[], t.waiters.map Waiter.abort⟩

/-- Drops the waiter with this index. -/
def dropWaiter (t : PaymentTracker) (n : Nat) : PaymentTracker :=
  { t with waiters := t.waiters.set n .dropped }

end PaymentTracker

end LightningLottery
