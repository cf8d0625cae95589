/-
  The endpoints of the lottery server.

  * `Endpoint α`: what is asked, under which page and with which parameters; the reply is an `α`.
  * `Endpoint.bets` and the others: the endpoints there are.
-/
import LightningLottery.Api.Exchange
import LightningLottery.Wire.Reply

namespace LightningLottery

/-- What is asked of the server. -/
structure Endpoint (α : Type) where
  method : Method
  page : List String
  parameters : List Form.Pair
  deriving DecidableEq, Repr

namespace Endpoint

/-- A number as a parameter. -/
def numberText (n : Nat) : String := decimalText n

/-- A flag as a parameter. -/
def flagText (b : Bool) : String := if b then "true" else "false"

/-- The bets of the lottery at a height; a limit of zero is none. -/
def bets (height : UInt32) (offset limit : UInt64) (reverse : Bool) : Endpoint BetsReply :=
  ⟨.get, ["bets"],
    [("height", numberText height.toNat), ("offset", numberText offset.toNat),
     ("limit", numberText limit.toNat), ("reverse", flagText reverse)]⟩

/-- The heights of past lotteries. -/
def heights (offset limit : UInt64) (reverse : Bool) : Endpoint HeightsReply :=
  ⟨.get, ["heights"],
    [("offset", numberText offset.toNat), ("limit", numberText limit.toNat),
     ("reverse", flagText reverse)]⟩

/-- The state of the lottery. -/
def lottery : Endpoint LotteryReply := ⟨.get, ["lottery"], []⟩

/-- A payment request for a bet of so many satoshis. -/
def invoice (amount : UInt64) : Endpoint InvoiceReply :=
  ⟨.get, ["invoice"], [("amount", numberText amount.toNat)]⟩

/-- The prizes of the one who asks. -/
def prizes : Endpoint PrizesReply := ⟨.get, ["prizes"], []⟩

/-- The winners of the lottery at a height. -/
def winners (height : UInt32) : Endpoint WinnersReply :=
  ⟨.get, ["winners"], [("height", numberText height.toNat)]⟩

/-- The winners of the lotteries between two heights. -/
def winnersHistory (first last : UInt32) : Endpoint WinnersReply :=
  ⟨.get, ["winners", "history"],
    [("from", numberText first.toNat), ("to", numberText last.toNat)]⟩

/-- Where a wallet starts a withdrawal (LUD-03). -/
def withdrawalOffer (publicKey signature : String) : Endpoint WithdrawalOffer :=
  ⟨.get, ["lightning", "lnurlw"], [("pubkey", publicKey), ("signature", signature)]⟩

/-- Asks for a payment request to be paid, with the signature of one's key as authority. -/
def withdraw (signature request publicKey : String) (fee : UInt64) : Endpoint WithdrawReply :=
  ⟨.post, ["withdraw"],
    [("k1", signature), ("pr", request), ("pubkey", publicKey), ("fee", numberText fee.toNat)]⟩

/-- The address that prizes are paid to. -/
def lightningAddress : Endpoint AddressReply := ⟨.get, ["lightning", "address"], []⟩

/-- Sets the address that prizes are paid to. -/
def setLightningAddress (address : String) : Endpoint AddressSetReply :=
  ⟨.post, ["lightning", "address"], [("address", address)]⟩

end Endpoint
end LightningLottery
