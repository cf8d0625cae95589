/-
  Key pairs as text, and the proof that one owns a public key.

  * `KeyPair`: the 32 secret bytes; the public key is computed from them.
  * `publicKeyOf`: the public key text of a private key text.
  * `signText`: the signature over the bytes that a public key text denotes.
  * `verifyOwnership`: accepts a signature over the public key by that key.
-/
import LightningLottery.Curve.Ed25519
import LightningLottery.Error
import LightningLottery.Text.Quoted

namespace LightningLottery

/-- The bytes of a key text. -/
def keyBytes (s : String) : Except Error Bytes :=
  match decodeHexKey s with
  | .ok bytes => .ok bytes
  | .error fault => .error (.crypto (.invalidKeyFormat (.key fault)))

/-- A key pair, kept as its secret bytes. -/
structure KeyPair where
  secret : Bytes

namespace KeyPair

/-- The pair of a private key text. -/
def ofPrivateKey (privateKey : String) : Except Error KeyPair :=
  (keyBytes privateKey).map KeyPair.mk

/-- The text of the private key, in small letters. -/
def privateKey (pair : KeyPair) : String := hexEncode pair.secret

/-- The text of the public key, in small letters. -/
def publicKey (pair : KeyPair) : String := hexEncode (Ed25519.publicKey pair.secret)

/-- The text of the signature over a message. -/
def sign (pair : KeyPair) (message : Bytes) : String := hexEncode (Ed25519.sign pair.secret message)

/-- The text of the signature over the pair's own public key. -/
def signPublicKey (pair : KeyPair) : String := pair.sign (Ed25519.publicKey pair.secret)

/-- The text for diagnostics, which shows the public key only. -/
def describe (pair : KeyPair) : String :=
  "KeyPair \x7b public_key: " ++ quoted pair.publicKey ++ " \x7d"

end KeyPair

/-- The public key of a private key. -/
def publicKeyOf (privateKey : String) : Except Error String :=
  (KeyPair.ofPrivateKey privateKey).map KeyPair.publicKey

/-- The signature of a private key over the bytes of a public key. -/
def signText (privateKey publicKey : String) : Except Error String := do
  let pair ← KeyPair.ofPrivateKey privateKey
  let message ← keyBytes publicKey
  return pair.sign message

/-- The number of bytes of a signature. -/
def signatureLength : Nat := 64

/-- The bytes of a signature text. -/
def signatureBytes (signature : String) : Except Error Bytes :=
  match hexDecode? signature with
  | some bytes =>
    if bytes.length = signatureLength then .ok bytes
    else .error (.crypto (.invalidKeyFormat .signature))
  | none => .error (.crypto (.invalidKeyFormat .signature))

/-- Accepts a signature over the bytes of a public key by that key. -/
def verifyOwnership (publicKey signature : String) : Except Error Unit := do
  let key ← keyBytes publicKey
  match Ed25519.Point.decode? key with
  | none => .error (.crypto (.invalidKeyFormat .notOnCurve))
  | some point =>
    let signed ← signatureBytes signature
    if Ed25519.verify key point key signed then .ok () else .error (.crypto .invalidSignature)

end LightningLottery
