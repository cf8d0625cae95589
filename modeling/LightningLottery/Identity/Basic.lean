/-
  The identity of a player: a key pair and the nickname that goes with it.

  * `Identity`: the three texts, as they are stored.
  * `Identity.ofPrivateKey`: the identity of a private key.
  * `normalizeRestore`: the private key that a restore input stands for; `Identity.restore` is its
    identity.
  * `Identity.check`: accepts an identity whose parts belong together.
-/
import LightningLottery.Identity.Signer
import LightningLottery.Nickname.Pool

namespace LightningLottery

/-- A key pair and its nickname, as texts. -/
structure Identity where
  privateKey : String
  publicKey : String
  nickname : String
  deriving DecidableEq, Repr

/-- The fewest characters of a restore input. -/
def minRestoreLength : Nat := 12

/-- The number of characters of a restore input that is taken as the key bytes themselves. -/
def rawSeedLength : Nat := 32

/-- The digits of the digest of a text. -/
def digestText (s : String) : String := hexEncode (sha256 (utf8 s))

/-- The private key that a restore input stands for: a key text stands for itself, another text of
    32 characters for its code points, and anything else for its digest. Digits alone are never
    taken as code points. -/
def normalizeRestore (input : String) : Except Error String :=
  if input.length < minRestoreLength then
    .error (.validation (.invalidRestoreInput minRestoreLength))
  else if isHex input then
    .ok (if input.utf8ByteSize = keyDigits then asciiLower input else digestText input)
  else if input.length = rawSeedLength then .ok (hexEncodeText input)
  else .ok (digestText input)

namespace Identity

/-- The identity without content. -/
def empty : Identity := ⟨"", "", ""⟩

/-- Whether all three texts are empty. -/
def isEmpty (identity : Identity) : Bool :=
  identity.privateKey.isEmpty && identity.publicKey.isEmpty && identity.nickname.isEmpty

/-- The identity of a private key, which is kept in small letters. -/
def ofPrivateKey (privateKey : String) : Except Error Identity :=
  match publicKeyOf (asciiLower privateKey) with
  | .ok publicKey => .ok ⟨asciiLower privateKey, publicKey, nicknameOf publicKey⟩
  | .error e => .error e

/-- The identity of secret bytes. -/
def ofSecret (secret : Bytes) : Identity :=
  let pair : KeyPair := ⟨secret⟩
  ⟨pair.privateKey, pair.publicKey, nicknameOf pair.publicKey⟩

/-- The identity that a restore input stands for. -/
def restore (input : String) : Except Error Identity :=
  match normalizeRestore input with
  | .ok privateKey => ofPrivateKey privateKey
  | .error e => .error e

/-- Accepts an identity whose public key is that of the private key, in either letter case, and
    whose nickname is that of the public key. -/
def check (identity : Identity) : Except Error Unit :=
  match publicKeyOf identity.privateKey with
  | .error _ => .error (.crypto (.corruptedIdentity .privateKey))
  | .ok expected =>
    if expected ≠ asciiLower identity.publicKey then
      .error (.crypto (.corruptedIdentity .publicKey))
    else if nicknameOf identity.publicKey ≠ identity.nickname then
      .error (.crypto (.corruptedIdentity .nickname))
    else .ok ()

/-- The proof that the player owns the public key. -/
def signature (identity : Identity) : Except Error String :=
  signText identity.privateKey identity.publicKey

/-- The text for diagnostics, which never shows the private key. -/
def describe (identity : Identity) : String :=
  "Identity \x7b public_key: " ++ quoted identity.publicKey ++ ", nickname: " ++
    quoted identity.nickname ++ ", .. \x7d"

end Identity

end LightningLottery
