/-
  What the server replies to requests.

  * One structure for each endpoint; the server leaves out fields that are zero, so every field has
    a default.
  * `refusalText?`: the message in the body of a refusal, `error` or `status` and `reason`.
-/
import LightningLottery.Wire.Event

namespace LightningLottery

/-- The bets of a lottery. -/
structure BetsReply where
  bets : List Bet
  deriving DecidableEq, Repr

/-- The heights of past lotteries. -/
structure HeightsReply where
  heights : List UInt32
  deriving DecidableEq, Repr

/-- The state of the lottery. -/
structure LotteryReply where
  prizePool : Int64
  capacity : Int64
  nextHeight : Option UInt32
  deriving DecidableEq, Repr

/-- The payment request for a bet, and the number of the payment. -/
structure InvoiceReply where
  invoice : String
  paymentId : PaymentId
  deriving DecidableEq, Repr

/-- The prizes that can be withdrawn. -/
structure PrizesReply where
  prizes : UInt64
  deriving DecidableEq, Repr

/-- The winners of one or several lotteries. -/
structure WinnersReply where
  winners : List Winner
  deriving DecidableEq, Repr

/-- What a wallet is told before it withdraws (LUD-03), the bounds in millisatoshis. -/
structure WithdrawalOffer where
  tag : String
  callback : String
  k1 : String
  defaultDescription : String
  minWithdrawable : UInt64
  maxWithdrawable : UInt64
  deriving DecidableEq, Repr

/-- A withdrawal that is under way. -/
structure WithdrawReply where
  status : String
  paymentId : PaymentId
  deriving DecidableEq, Repr

/-- The address that prizes are paid to. -/
structure AddressReply where
  address : String
  hasAddress : Bool
  deriving DecidableEq, Repr

/-- Whether a new address was taken. -/
structure AddressSetReply where
  success : Bool
  deriving DecidableEq, Repr

open FieldRule (defaulted optional)

instance : Wire BetsReply where
  shape := .record [(defaulted "bets" (.list []), .list (Wire.shape Bet))]
  toItem r := .record [.list (r.bets.map Wire.toItem)]
  ofItem item := ⟨(item.field 0).toList.map Wire.ofItem⟩

instance : Wire HeightsReply where
  shape := .record [(defaulted "heights" (.list []), .list .word32)]
  toItem r := .record [.list (r.heights.map .ofWord32)]
  ofItem item := ⟨(item.field 0).toList.map Item.toWord32⟩

instance : Wire LotteryReply where
  shape := .record
    [(defaulted "prize_pool" (.whole 0), .signed64), (defaulted "capacity" (.whole 0), .signed64),
     (optional "next_height", .word32)]
  toItem r := .record
    [.ofSigned64 r.prizePool, .ofSigned64 r.capacity, .ofOption .ofWord32 r.nextHeight]
  ofItem item :=
    ⟨(item.field 0).toSigned64, (item.field 1).toSigned64, (item.field 2).toOption Item.toWord32⟩

instance : Wire InvoiceReply where
  shape := .record
    [(defaulted "invoice" (.text ""), .text), (defaulted "payment_id" (.whole 0), .word64)]
  toItem r := .record [.text r.invoice, .ofWord64 r.paymentId]
  ofItem item := ⟨(item.field 0).toText, (item.field 1).toWord64⟩

instance : Wire PrizesReply where
  shape := .record [(defaulted "prizes" (.whole 0), .word64)]
  toItem r := .record [.ofWord64 r.prizes]
  ofItem item := ⟨(item.field 0).toWord64⟩

instance : Wire WinnersReply where
  shape := .record [(defaulted "winners" (.list []), .list (Wire.shape Winner))]
  toItem r := .record [.list (r.winners.map Wire.toItem)]
  ofItem item := ⟨(item.field 0).toList.map Wire.ofItem⟩

instance : Wire WithdrawalOffer where
  shape := .record
    [(defaulted "tag" (.text ""), .text), (defaulted "callback" (.text ""), .text),
     (defaulted "k1" (.text ""), .text), (defaulted "default_description" (.text ""), .text),
     (defaulted "min_withdrawable" (.whole 0), .word64),
     (defaulted "max_withdrawable" (.whole 0), .word64)]
  toItem r := .record
    [.text r.tag, .text r.callback, .text r.k1, .text r.defaultDescription,
     .ofWord64 r.minWithdrawable, .ofWord64 r.maxWithdrawable]
  ofItem item :=
    ⟨(item.field 0).toText, (item.field 1).toText, (item.field 2).toText, (item.field 3).toText,
     (item.field 4).toWord64, (item.field 5).toWord64⟩

instance : Wire WithdrawReply where
  shape := .record
    [(defaulted "status" (.text ""), .text), (defaulted "payment_id" (.whole 0), .word64)]
  toItem r := .record [.text r.status, .ofWord64 r.paymentId]
  ofItem item := ⟨(item.field 0).toText, (item.field 1).toWord64⟩

instance : Wire AddressReply where
  shape := .record
    [(defaulted "address" (.text ""), .text), (defaulted "has_address" (.flag false), .flag)]
  toItem r := .record [.text r.address, .flag r.hasAddress]
  ofItem item := ⟨(item.field 0).toText, (item.field 1).toFlag⟩

instance : Wire AddressSetReply where
  shape := .record [(defaulted "success" (.flag false), .flag)]
  toItem r := .record [.flag r.success]
  ofItem item := ⟨(item.field 0).toFlag⟩

/-! ## Refusals -/

/-- The text under a key that an object has exactly once. -/
def onlyText? (key : String) (members : List (Except Json.Fault String × Json.Node)) :
    Option String :=
  match members.filter (fun member => member.1.toOption == some key) with
  | [(_, .text (.ok s))] => some s
  | _ => none

/-- The message in the body of a refusal: the body must be a whole JSON object with `error`, or with
    `status` and `reason`. -/
def refusalText? (body : Bytes) : Option String :=
  match Json.Node.parse body with
  | (.object members stop, false) =>
    if (Json.Node.value Json.maxDepth (.object members stop)).toOption.isSome then
      match onlyText? "error" members with
      | some message => some message
      | none =>
        match onlyText? "status" members, onlyText? "reason" members with
        | some status, some reason => some (status ++ ": " ++ reason)
        | _, _ => none
    else none
  | _ => none

end LightningLottery
