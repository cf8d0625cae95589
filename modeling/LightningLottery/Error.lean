/-
  Everything that can go wrong, by cause, with its wording and what to do about it.

  * `ValidationError`: what a user entered breaks a rule.
  * `CryptoError`: key material or a stored identity is malformed.
  * `Error`: the sum of all causes; `Error.message` is its text.
  * `Error.isUserFacing`: whether it is shown to the user.
  * `Error.isRetryable`: whether the same request may succeed later.
-/
import LightningLottery.Bech32.Codec
import LightningLottery.Json.Fault
import LightningLottery.Text.Grouped
import LightningLottery.Text.Hex
import LightningLottery.Url.Fault

namespace LightningLottery

/-! ## Causes -/

/-- What a user entered breaks a rule. -/
inductive ValidationError where
  /-- The payment request is not of the network with this prefix. -/
  | invalidNetwork (expected : String)
  /-- The payment request, or the LNURL, cannot be read. -/
  | invalidInvoice (reason : String)
  /-- The amount is missing, zero, or not the expected one. -/
  | invalidAmount
  /-- The amount is above the allowed maximum. -/
  | amountTooHigh
  | invoiceExpired
  | invalidAddress
  /-- The routing fee is above the prizes. -/
  | invalidFee
  | noPrizes
  /-- The LNURL would have `length` characters. -/
  | urlTooLong (length max : Nat)
  /-- The restore input has fewer than `min` characters. -/
  | invalidRestoreInput (min : Nat)
  deriving DecidableEq, Repr

/-- The wording of a broken rule. -/
def ValidationError.message : ValidationError → String
  | .invalidNetwork expected => "invalid invoice network, it must be " ++ expected
  | .invalidInvoice reason => "invalid invoice: " ++ reason
  | .invalidAmount => "invalid invoice amount"
  | .amountTooHigh => "invoice amount is higher than available prizes"
  | .invoiceExpired => "invoice already expired"
  | .invalidAddress => "invalid lightning address"
  | .invalidFee => "invalid fee amount"
  | .noPrizes => "no prizes available to withdraw"
  | .urlTooLong length max =>
    "url too long to encode as lnurl (" ++ decimalText length ++ " > " ++ decimalText max
      ++ " chars)"
  | .invalidRestoreInput min =>
    "restore input must be at least " ++ decimalText min ++ " characters long"

/-- Why a text is no key or no signature. -/
inductive KeyFormatFault where
  | key (fault : KeyFault)
  /-- The bytes are no point of the curve. -/
  | notOnCurve
  /-- The text is not that of 64 bytes. -/
  | signature
  | other (reason : String)
  deriving DecidableEq, Repr

/-- The wording of a format fault. -/
def KeyFormatFault.message : KeyFormatFault → String
  | .key .length => "expected 64 hex characters"
  | .key .digits => "not hex encoded"
  | .notOnCurve => "not a curve point"
  | .signature => "signature must be 128 hex characters"
  | .other reason => reason

/-- Which part of a stored identity does not belong to the others. -/
inductive RecordFault where
  | privateKey
  | publicKey
  | nickname
  | other (reason : String)
  deriving DecidableEq, Repr

/-- The wording of a record fault. -/
def RecordFault.message : RecordFault → String
  | .privateKey => "private key is not valid hex"
  | .publicKey => "public key does not match private key"
  | .nickname => "nickname does not match public key"
  | .other reason => reason

/-- Malformed key material. -/
inductive CryptoError where
  | invalidKeyFormat (fault : KeyFormatFault)
  | invalidSignature
  | corruptedIdentity (fault : RecordFault)
  deriving DecidableEq, Repr

/-- The wording of malformed key material. -/
def CryptoError.message : CryptoError → String
  | .invalidKeyFormat fault => "invalid key format: " ++ fault.message
  | .invalidSignature => "invalid signature"
  | .corruptedIdentity fault => "stored identity is corrupted: " ++ fault.message

/-- At which stage a request failed below HTTP. -/
inductive NetworkFault where
  /-- No reply came. -/
  | send
  /-- The body of the reply ended early. -/
  | readBody
  | other (reason : String)
  deriving DecidableEq, Repr

/-- The wording of a failed request. -/
def NetworkFault.message : NetworkFault → String
  | .send => "send"
  | .readBody => "read body"
  | .other reason => reason

/-- Why a connection of the event stream is down. -/
inductive StreamFault where
  /-- No reply came. -/
  | connect
  /-- Reading stopped in the middle. -/
  | read
  /-- The reply was not a success; `status` is its code and reason phrase. -/
  | refused (status : String)
  /-- The server ended the connection. -/
  | closedByServer
  | other (reason : String)
  deriving DecidableEq, Repr

/-- The wording of a stream fault. -/
def StreamFault.message : StreamFault → String
  | .connect => "connect"
  | .read => "read"
  | .refused status => "event stream returned " ++ status
  | .closedByServer => "connection closed by server"
  | .other reason => reason

/-- What a file operation can fail with. -/
inductive FileFault where
  | notFound
  | notDirectory
  | isDirectory
  | alreadyExists
  /-- A name or a whole path is too long. -/
  | nameTooLong
  /-- A path holds a NUL. -/
  | nulInName
  | other (reason : String)
  deriving DecidableEq, Repr

/-- The wording of a failed file operation. -/
def FileFault.message : FileFault → String
  | .notFound => "No such file or directory (os error 2)"
  | .notDirectory => "Not a directory (os error 20)"
  | .isDirectory => "Is a directory (os error 21)"
  | .alreadyExists => "File exists (os error 17)"
  | .nameTooLong => "File name too long (os error 36)"
  | .nulInName => "file name contained an unexpected NUL byte"
  | .other reason => reason

/-- Why the identity storage cannot be used. -/
inductive StorageFault where
  /-- Its directory cannot be made. -/
  | createDirectory (cause : FileFault)
  /-- The record at this path cannot be read. -/
  | read (path : String) (cause : FileFault)
  | other (reason : String)
  deriving DecidableEq, Repr

/-- The wording of a storage fault. -/
def StorageFault.message : StorageFault → String
  | .createDirectory cause => "create storage dir: " ++ cause.message
  | .read path cause => "read " ++ path ++ ": " ++ cause.message
  | .other reason => reason

/-- Which setting cannot be used. -/
inductive ConfigFault where
  | unknownNetwork (name : String)
  | notHttp (url : String)
  | bolt11Prefix (given : String)
  | backoff
  | emptyWordList
  | other (reason : String)
  deriving DecidableEq, Repr

/-- The wording of an unusable setting. -/
def ConfigFault.message : ConfigFault → String
  | .unknownNetwork name => "unknown network '" ++ name ++ "'"
  | .notHttp url => "api url must be http(s): " ++ url
  | .bolt11Prefix given => "bolt11 prefix must start with 'ln': " ++ given
  | .backoff => "backoff floor must be non-zero and not above the ceiling"
  | .emptyWordList => "nickname word lists must not be empty"
  | .other reason => reason

/-! ## The sum of all causes -/

/-- Everything that can go wrong. -/
inductive Error where
  | network (fault : NetworkFault)
  /-- The server refused the request with this status and message. -/
  | httpStatus (status : UInt16) (text : String)
  | rateLimited
  | notFound (target : String)
  | emptyResponse (target : String)
  | aborted
  | url (cause : UrlError)
  | json (fault : Json.Fault)
  | validation (cause : ValidationError)
  | crypto (cause : CryptoError)
  | bech32 (cause : Bech32Error)
  | stream (fault : StreamFault)
  | file (fault : FileFault)
  | storage (fault : StorageFault)
  | config (fault : ConfigFault)
  deriving DecidableEq, Repr

namespace Error

/-- The text of an error. -/
def message : Error → String
  | .network fault => "network error: " ++ fault.message
  | .httpStatus status text => "http status " ++ decimalText status.toNat ++ ": " ++ text
  | .rateLimited => "too many requests"
  | .notFound target => "404 - not found: " ++ target
  | .emptyResponse target => "empty response from " ++ target
  | .aborted => "request aborted"
  | .url cause => "url parse error: " ++ cause.message
  | .json fault => "json error: " ++ fault.message
  | .validation cause => cause.message
  | .crypto cause => cause.message
  | .bech32 cause => "bech32 error: " ++ cause.message
  | .stream fault => "event stream error: " ++ fault.message
  | .file fault => "io error: " ++ fault.message
  | .storage fault => "storage error: " ++ fault.message
  | .config fault => "config error: " ++ fault.message

/-- What a user can act on: broken rules, and refused or failed requests. -/
def isUserFacing : Error → Bool
  | .validation _ | .network _ | .httpStatus _ _ | .rateLimited | .notFound _ | .emptyResponse _ =>
    true
  | _ => false

/-- The status of a request that took too long to arrive. -/
def requestTimeout : UInt16 := 408

/-- What may pass: failures of the network or the event stream, a rate limit, and the statuses by
    which a server says that the fault is its own or only one of time. -/
def isRetryable : Error → Bool
  | .network _ | .stream _ | .rateLimited => true
  | .httpStatus status _ => (500 ≤ status && status ≤ 599) || status == requestTimeout
  | _ => false

end Error

end LightningLottery
