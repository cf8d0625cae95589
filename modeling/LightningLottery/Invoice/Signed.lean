/-
  A payment request as it is written: human-readable part, time, fields and signature.

  * `SignedInvoice.parse`: reads one, and finds what is malformed.
  * `SignedInvoice.check`: each mandatory field once, known features, a good signature, and an
    amount of whole millisatoshis, in that order.
-/
import LightningLottery.Hash.Sha256
import LightningLottery.Invoice.Field

namespace LightningLottery

/-- A payment request as it is written. -/
structure SignedInvoice where
  human : HumanPart
  timestamp : Nat
  fields : List Field
  /-- The digest that the signature signs. -/
  digest : Bytes
  signature : Secp256k1.Signature
  deriving DecidableEq, Repr

namespace SignedInvoice

/-- The number of words that carry the signature and its recovery id. -/
def signatureWords : Nat := 104

/-- The number of words that carry the time. -/
def timestampWords : Nat := 7

/-- The bytes of words filled up with zero bits to whole bytes. -/
def filledBytes (ws : List Word) : Bytes :=
  let left := 5 * ws.length % 8
  bytesOfWords (ws ++ if left = 0 then [] else if left < 3 then [0, 0] else [0])

/-- The digest of a human-readable part and the words that the signature signs. -/
def digestOf (hrp : String) (ws : List Word) : Bytes := sha256 (utf8 hrp ++ filledBytes ws)

/-- The signature in the last words. -/
def parseSignature (ws : List Word) : Except InvoiceFault Secp256k1.Signature :=
  match Secp256k1.Signature.parse (bytesOfWords ws) with
  | .ok signature => .ok signature
  | .error .recoveryId => .error .badRecoveryId
  | .error .scalar => .error .malformedSignature

/-- Reads the parts of a Bech32 text. -/
def ofWords (hrp : String) (ws : List Word) : Except InvoiceFault SignedInvoice :=
  if ws.length < signatureWords then .error .tooShort
  else do
    let human ← HumanPart.parse hrp.toList
    let signed := ws.take (ws.length - signatureWords)
    if signed.length < timestampWords then .error .tooShort
    else
      let fields ← fieldsOfWords (signed.drop timestampWords)
      let signature ← parseSignature (ws.drop (ws.length - signatureWords))
      let timestamp := wordNumber (signed.take timestampWords)
      return ⟨human, timestamp, fields, digestOf hrp signed, signature⟩

/-- Reads a payment request. -/
def parse (s : String) : Except InvoiceFault SignedInvoice :=
  match Bech32.decode s with
  | .error cause => .error (.bech32 cause)
  | .ok (hrp, ws) => ofWords hrp ws

/-- Exactly one field is of a kind. -/
def exactlyOne (fields : List Field) (kind : Field → Bool) (missing many : InvoiceFault) :
    Except InvoiceFault Unit :=
  match (fields.filter kind).length with
  | 0 => .error missing
  | 1 => .ok ()
  | _ => .error many

/-- The payment hashes. -/
def isPaymentHash : Field → Bool
  | .paymentHash _ => true
  | _ => false

/-- The descriptions, given or hashed. -/
def isDescription : Field → Bool
  | .description _ | .descriptionHash _ => true
  | _ => false

/-- The payment secrets. -/
def isPaymentSecret : Field → Bool
  | .paymentSecret _ => true
  | _ => false

/-- The feature bits of the first features field. -/
def features? (invoice : SignedInvoice) : Option Nat :=
  invoice.fields.findSome? fun
    | .features bits => some bits
    | _ => none

/-- The key of the first payee field. -/
def payee? (invoice : SignedInvoice) : Option Bytes :=
  invoice.fields.findSome? fun
    | .payee key => some key
    | _ => none

/-- The even feature bits that are understood: variable onion, payment secret, multi-part payment,
    payment metadata, trampoline routing. -/
def knownFeatures : List Nat := [8, 14, 16, 48, 56]

/-- The bits, either of which says that a payment secret is understood. -/
def paymentSecretBits : List Nat := [14, 15]

/-- Features are acceptable if every even bit is understood and payment secrets are supported. -/
def featuresFit (bits : Nat) : Bool :=
  (List.range (Nat.log2 bits + 1)).all (fun i =>
    i % 2 == 1 || !bits.testBit i || knownFeatures.contains i) &&
  paymentSecretBits.any bits.testBit

/-- The signature is good under the payee's key, or under the one it is made with when no payee is
    named. -/
def isSigned (invoice : SignedInvoice) : Bool :=
  match Secp256k1.recover? invoice.digest invoice.signature with
  | none => false
  | some recovered =>
    let key := (invoice.payee?.bind Secp256k1.parseKey?).getD recovered
    Secp256k1.verify invoice.digest invoice.signature key

/-- Judges the meaning of a payment request. -/
def check (invoice : SignedInvoice) : Except InvoiceFault Unit := do
  exactlyOne invoice.fields isPaymentHash .noPaymentHash .multiplePaymentHashes
  exactlyOne invoice.fields isDescription .noDescription .multipleDescriptions
  exactlyOne invoice.fields isPaymentSecret .noPaymentSecret .multiplePaymentSecrets
  if (invoice.features?.map featuresFit).getD false then pure () else .error .invalidFeatures
  if invoice.isSigned then pure () else .error .invalidSignature
  match invoice.human.picoBitcoin with
  | some pico => if pico % 10 = 0 then .ok () else .error .impreciseAmount
  | none => .ok ()

end SignedInvoice

end LightningLottery
