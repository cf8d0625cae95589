/-
  LNURL (LUD-01): a URL as a Bech32 text, so that wallets can scan it.

  * `encodeBounded`: the Bech32 text of bytes, refused above a length.
  * `Lnurl.encode`: the text of a URL under the human-readable part `lnurl`, of at most 1023
    characters.
  * `Lnurl.decode`: the URL of such a text, in either letter case, with or without `lightning:`
    in front.
-/
import LightningLottery.Error

namespace LightningLottery

/-- The Bech32 text of bytes, if it has at most `max` characters. -/
def encodeBounded (hrp : String) (payload : Bytes) (max : Nat) : Except Error String :=
  match Bech32.encode hrp (wordsOfBytes payload) with
  | .error cause => .error (.bech32 cause)
  | .ok text =>
    if max < text.length then .error (.validation (.urlTooLong text.length max)) else .ok text

namespace Lnurl

/-- The human-readable part. -/
def hrp : String := "lnurl"

/-- The greatest length. -/
def maxLength : Nat := 1023

/-- The LNURL of a URL. -/
def encode (url : String) : Except Error String := encodeBounded hrp (utf8 url) maxLength

/-- A text without the scheme that links to wallets put in front of it. -/
def withoutScheme (s : String) : String :=
  match stripStart? "lightning:" s with
  | some rest => rest
  | none => (stripStart? "LIGHTNING:" s).getD s

/-- The URL of an LNURL. -/
def decode (s : String) : Except Error String :=
  match Bech32.decode (withoutScheme (trim s)) with
  | .error cause => .error (.bech32 cause)
  | .ok (found, words) =>
    if found ≠ hrp then
      .error (.validation (.invalidInvoice ("expected hrp '" ++ hrp ++ "', got '" ++ found ++ "'")))
    else match Utf8.decode (bytesOfWords words) with
      | .ok url => .ok url
      | .error _ => .error (.validation (.invalidInvoice "lnurl payload is not utf-8"))

end Lnurl

end LightningLottery
