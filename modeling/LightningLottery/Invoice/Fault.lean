/-
  Why a text is no payment request (BOLT11).

  * `InvoiceFault`: the causes, those of reading before those of meaning.
  * `InvoiceFault.message`: their wording.
-/
import LightningLottery.Bech32.Codec
import LightningLottery.Text.Utf8

namespace LightningLottery

/-- Why a text is no payment request. -/
inductive InvoiceFault where
  | bech32 (cause : Bech32Error)
  | tooShort
  | malformedHrp
  | unknownCurrency
  | unknownMultiplier
  /-- The amount, multiplier aside, is no number of 64 bits. -/
  | amountTooLarge
  /-- A number, or the amount with its multiplier, is none of 64 bits. -/
  | integerOverflow
  | fieldCutShort
  | padding
  | descriptionText (fault : Utf8.Fault)
  | witnessProgramLength
  | publicKeyHashLength
  | scriptHashLength
  | malformedPublicKey
  | malformedSignature
  | badRecoveryId
  | noPaymentHash
  | multiplePaymentHashes
  | noDescription
  | multipleDescriptions
  | noPaymentSecret
  | multiplePaymentSecrets
  | invalidFeatures
  | invalidSignature
  /-- The amount is no whole number of millisatoshis. -/
  | impreciseAmount
  deriving DecidableEq, Repr

/-- The wording of a cause. -/
def InvoiceFault.message : InvoiceFault → String
  | .bech32 cause => "Invalid bech32: " ++ cause.message
  | .tooShort => "data part too short (should be at least 111 bech32 chars long)"
  | .malformedHrp => "malformed human readable part"
  | .unknownCurrency => "currency code unknown"
  | .unknownMultiplier => "unknown SI prefix"
  | .amountTooLarge => "Invalid amount in hrp (number too large to fit in target type)"
  | .integerOverflow => "parsed integer doesn't fit into receiving type"
  | .fieldCutShort => "tagged fields part ended unexpectedly"
  | .padding => "some data field had bad padding"
  | .descriptionText fault => "Description is not a valid utf-8 string: " ++ fault.message
  | .witnessProgramLength => "fallback SegWit program is too long or too short"
  | .publicKeyHashLength => "fallback public key hash has a length unequal 20 bytes"
  | .scriptHashLength => "fallback script hash has a length unequal 32 bytes"
  | .malformedPublicKey => "Invalid secp256k1 signature: malformed public key"
  | .malformedSignature => "Invalid secp256k1 signature: malformed signature"
  | .badRecoveryId => "Invalid secp256k1 signature: bad recovery id"
  | .noPaymentHash => "The invoice is missing the mandatory payment hash"
  | .multiplePaymentHashes => "The invoice has multiple payment hashes which isn't allowed"
  | .noDescription => "No description or description hash are part of the invoice"
  | .multipleDescriptions =>
    "The invoice contains multiple descriptions and/or description hashes which isn't allowed"
  | .noPaymentSecret => "The invoice is missing the mandatory payment secret"
  | .multiplePaymentSecrets => "The invoice contains multiple payment secrets"
  | .invalidFeatures => "The invoice's features are invalid"
  | .invalidSignature => "The invoice's signature is invalid"
  | .impreciseAmount => "The invoice's amount was not a whole number of millisatoshis"

end LightningLottery
