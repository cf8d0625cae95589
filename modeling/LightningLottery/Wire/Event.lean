/-
  What the server pushes over the event stream.

  * `EventType`: the kinds of event, each with its name on the wire.
  * `LotteryChange`: what has changed in the lottery, under the name `info`.
  * `BetOutcome`, `WithdrawalOutcome`: how a payment ended, under `invoices` and `payments`.
-/
import LightningLottery.Identity.Basic
import LightningLottery.Invoice.Basic
import LightningLottery.Json.Shape
import LightningLottery.Payment.Tracker

namespace LightningLottery

/-- The kinds of event. -/
inductive EventType where
  | info
  | invoices
  | payments
  deriving DecidableEq, Repr

/-- The name of a kind of event on the wire. -/
def EventType.name : EventType → String
  | .info => "info"
  | .invoices => "invoices"
  | .payments => "payments"

/-- A winning ticket. -/
structure Winner where
  publicKey : String
  prizes : UInt64
  ticket : UInt64
  expired : Bool
  deriving DecidableEq, Repr

/-- A bet; `index` is the number of its last ticket. -/
structure Bet where
  publicKey : String
  index : UInt64
  tickets : UInt64
  deriving DecidableEq, Repr

/-- What has changed in the lottery. -/
structure LotteryChange where
  winners : Option (List Winner)
  capacity : Option Int64
  prizePool : Option Int64
  nextHeight : Option UInt32
  blockHeight : Option UInt32
  deriving DecidableEq, Repr

/-- How the payment of a bet ended. -/
structure BetOutcome where
  error : String
  paymentId : PaymentId
  publicKey : String
  amount : UInt64
  status : PaymentStatus
  deriving DecidableEq, Repr

/-- How a withdrawal ended. -/
structure WithdrawalOutcome where
  error : String
  paymentId : PaymentId
  status : PaymentStatus
  deriving DecidableEq, Repr

/-- The outcome that a bet's event reports. -/
def BetOutcome.outcome (o : BetOutcome) : PaymentOutcome := ⟨o.paymentId, o.status, o.error⟩

/-- The outcome that a withdrawal's event reports. -/
def WithdrawalOutcome.outcome (o : WithdrawalOutcome) : PaymentOutcome :=
  ⟨o.paymentId, o.status, o.error⟩

/-! ## As items -/

namespace Item

/-- The item of a word of 64 bits. -/
def ofWord64 (n : UInt64) : Item := .whole n.toNat

/-- The word of 64 bits of an item. -/
def toWord64 (item : Item) : UInt64 := UInt64.ofNat item.toInt.toNat

/-- The item of a word of 32 bits. -/
def ofWord32 (n : UInt32) : Item := .whole n.toNat

/-- The word of 32 bits of an item. -/
def toWord32 (item : Item) : UInt32 := UInt32.ofNat item.toInt.toNat

/-- The item of a signed word of 64 bits. -/
def ofSigned64 (n : Int64) : Item := .whole n.toInt

/-- The signed word of 64 bits of an item. -/
def toSigned64 (item : Item) : Int64 := Int64.ofInt item.toInt

end Item

open FieldRule (required defaulted optional omissible)

instance : Wire PaymentStatus where
  shape := .word8
  toItem status := .whole status.number
  ofItem item := PaymentStatus.ofNumber item.toInt.toNat

instance : Wire Winner where
  shape := .record
    [(defaulted "public_key" (.text ""), .text), (defaulted "prizes" (.whole 0), .word64),
     (defaulted "ticket" (.whole 0), .word64), (defaulted "expired" (.flag false), .flag)]
  toItem w := .record [.text w.publicKey, .ofWord64 w.prizes, .ofWord64 w.ticket, .flag w.expired]
  ofItem item :=
    ⟨(item.field 0).toText, (item.field 1).toWord64, (item.field 2).toWord64, (item.field 3).toFlag⟩

instance : Wire Bet where
  shape := .record
    [(defaulted "public_key" (.text ""), .text), (defaulted "index" (.whole 0), .word64),
     (defaulted "tickets" (.whole 0), .word64)]
  toItem b := .record [.text b.publicKey, .ofWord64 b.index, .ofWord64 b.tickets]
  ofItem item := ⟨(item.field 0).toText, (item.field 1).toWord64, (item.field 2).toWord64⟩

instance : Wire LotteryChange where
  shape := .record
    [(omissible "winners", .list (Wire.shape Winner)), (omissible "capacity", .signed64),
     (omissible "prize_pool", .signed64), (omissible "next_height", .word32),
     (omissible "block_height", .word32)]
  toItem c := .record
    [.ofOption (fun ws => .list (ws.map Wire.toItem)) c.winners, .ofOption .ofSigned64 c.capacity,
     .ofOption .ofSigned64 c.prizePool, .ofOption .ofWord32 c.nextHeight,
     .ofOption .ofWord32 c.blockHeight]
  ofItem item :=
    ⟨(item.field 0).toOption fun ws => ws.toList.map Wire.ofItem,
     (item.field 1).toOption Item.toSigned64, (item.field 2).toOption Item.toSigned64,
     (item.field 3).toOption Item.toWord32, (item.field 4).toOption Item.toWord32⟩

instance : Wire BetOutcome where
  shape := .record
    [(defaulted "error" (.text ""), .text), (defaulted "payment_id" (.whole 0), .word64),
     (defaulted "public_key" (.text ""), .text), (defaulted "amount" (.whole 0), .word64),
     (defaulted "status" (.whole 0), Wire.shape PaymentStatus)]
  toItem o := .record
    [.text o.error, .ofWord64 o.paymentId, .text o.publicKey, .ofWord64 o.amount,
     Wire.toItem o.status]
  ofItem item :=
    ⟨(item.field 0).toText, (item.field 1).toWord64, (item.field 2).toText,
     (item.field 3).toWord64, Wire.ofItem (item.field 4)⟩

instance : Wire WithdrawalOutcome where
  shape := .record
    [(defaulted "error" (.text ""), .text), (defaulted "payment_id" (.whole 0), .word64),
     (defaulted "status" (.whole 0), Wire.shape PaymentStatus)]
  toItem o := .record [.text o.error, .ofWord64 o.paymentId, Wire.toItem o.status]
  ofItem item := ⟨(item.field 0).toText, (item.field 1).toWord64, Wire.ofItem (item.field 2)⟩

instance : Wire Invoice where
  shape := .record [(required "paymentHash", .text), (required "amountSat", .word64)]
  toItem i := .record [.text i.paymentHash, .ofWord64 i.amountSat]
  ofItem item := ⟨(item.field 0).toText, (item.field 1).toWord64⟩

instance : Wire Identity where
  shape := .record
    [(defaulted "privateKey" (.text ""), .text), (defaulted "publicKey" (.text ""), .text),
     (defaulted "nickname" (.text ""), .text)]
  toItem i := .record [.text i.privateKey, .text i.publicKey, .text i.nickname]
  ofItem item := ⟨(item.field 0).toText, (item.field 1).toText, (item.field 2).toText⟩

end LightningLottery
