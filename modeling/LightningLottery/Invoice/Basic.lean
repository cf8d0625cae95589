/-
  Payment requests as the lottery sees them.

  * `DecodedInvoice`: the facts that matter; `DecodedInvoice.decode` reads them.
  * `DecodedInvoice.amountSat`: the amount to the nearest satoshi, a half rounding up.
  * `DecodedInvoice.isExpiredAt`: whether it can no longer be paid.
  * `validateInvoice`: accepts a request of a network, with a fitting amount, that is still open.
-/
import LightningLottery.Error
import LightningLottery.Invoice.Signed

namespace LightningLottery

/-- The seconds a request stays open where it does not say. -/
def defaultExpiry : UInt64 := 3600

/-- The blocks the last hop is given where a request does not say. -/
def defaultMinFinalCltvExpiryDelta : UInt64 := 18

/-- The facts of a payment request. -/
structure DecodedInvoice where
  /-- `ln` and the code of the network. -/
  networkPrefix : String
  amountMsat : Option UInt64
  /-- When it was made, in seconds since 1970. -/
  timestamp : UInt64
  /-- For how many seconds it stays open. -/
  expiry : UInt64
  paymentHash : String
  paymentSecret : String
  payee : Option String
  minFinalCltvExpiryDelta : UInt64
  deriving DecidableEq, Repr

namespace DecodedInvoice

/-- The digits of the first field for which `get` gives bytes. -/
def firstBytes (invoice : SignedInvoice) (get : Field → Option Bytes) : String :=
  hexEncode ((invoice.fields.findSome? get).getD [])

/-- The number in the first field for which `get` gives one. -/
def firstNumber (invoice : SignedInvoice) (get : Field → Option Nat) (default : UInt64) : UInt64 :=
  ((invoice.fields.findSome? get).map UInt64.ofNat).getD default

/-- The facts of a request as it is written. -/
def ofSigned (invoice : SignedInvoice) : DecodedInvoice where
  networkPrefix := "ln" ++ invoice.human.currency.code
  amountMsat := invoice.human.picoBitcoin.map fun pico => UInt64.ofNat (pico / 10)
  timestamp := UInt64.ofNat invoice.timestamp
  expiry := firstNumber invoice (fun | .expiry n => some n | _ => none) defaultExpiry
  paymentHash := firstBytes invoice fun | .paymentHash bs => some bs | _ => none
  paymentSecret := firstBytes invoice fun | .paymentSecret bs => some bs | _ => none
  payee := invoice.payee?.map hexEncode
  minFinalCltvExpiryDelta :=
    firstNumber invoice (fun | .minFinalCltvExpiryDelta n => some n | _ => none)
      defaultMinFinalCltvExpiryDelta

/-- Reads a payment request, blanks around it aside, and says why it is none. -/
def read (request : String) : Except InvoiceFault DecodedInvoice := do
  let invoice ← SignedInvoice.parse (trim request)
  invoice.check
  return ofSigned invoice

/-- Reads a payment request. -/
def decode (request : String) : Except Error DecodedInvoice :=
  match read request with
  | .ok invoice => .ok invoice
  | .error fault => .error (.validation (.invalidInvoice fault.message))

/-- The amount to the nearest satoshi, a half rounding up. -/
def amountSat (invoice : DecodedInvoice) : Option UInt64 :=
  invoice.amountMsat.map fun msat => saturatingAdd msat 500 / 1000

/-- When the request stops being payable. -/
def expiresAt (invoice : DecodedInvoice) : UInt64 := saturatingAdd invoice.timestamp invoice.expiry

/-- Whether the request has stopped being payable. -/
def isExpiredAt (invoice : DecodedInvoice) (now : UInt64) : Bool := invoice.expiresAt ≤ now

end DecodedInvoice

/-- What is kept of an accepted payment request. -/
structure Invoice where
  paymentHash : String
  amountSat : UInt64
  deriving DecidableEq, Repr

/-- Accepts a payment request of the network with the given prefix, of exactly the target amount
    if one is given, of at most the maximum if one is given, that is open at the given time. The
    start of the text is looked at before the request is read; the prefix `lnbc` is also the start
    of `lnbcrt`, so the network read is compared too. -/
def validateInvoice (request networkPrefix : String) (target max : Option UInt64) (now : UInt64) :
    Except Error Invoice :=
  let request := trim request
  let wrongNetwork : Error := .validation (.invalidNetwork networkPrefix)
  if !startsWith (asciiLower request) (asciiLower networkPrefix) then .error wrongNetwork
  else match DecodedInvoice.decode request with
    | .error e => .error e
    | .ok invoice =>
      if !eqIgnoringCase invoice.networkPrefix networkPrefix then .error wrongNetwork
      else match invoice.amountSat with
        | none => .error (.validation .invalidAmount)
        | some sat =>
          if sat = 0 || target.any (· != sat) then .error (.validation .invalidAmount)
          else if max.any (· < sat) then .error (.validation .amountTooHigh)
          else if invoice.isExpiredAt now then .error (.validation .invoiceExpired)
          else .ok ⟨invoice.paymentHash, sat⟩

/-- What is left of the prizes for a withdrawal after the routing fee. -/
def withdrawable (prizes fee : UInt64) : Except Error UInt64 :=
  if prizes = 0 then .error (.validation .noPrizes)
  else if prizes < fee then .error (.validation .invalidFee)
  else .ok (prizes - fee)

end LightningLottery
