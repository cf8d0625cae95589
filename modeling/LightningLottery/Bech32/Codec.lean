/-
  Bech32 texts (BIP-173): a human-readable part, the last `1`, and a data part.

  * `Bech32.encode`: the text of a human-readable part and words, in small letters.
  * `Bech32.decode`: the parts of a text in one letter case. The human-readable part is judged
    first, then the data part character by character, then its length, then the checksum. There
    is no limit on the length of the whole.
-/
import LightningLottery.Bech32.Checksum
import LightningLottery.Text.Blank
import LightningLottery.Text.Split

namespace LightningLottery

/-- Why a text is no Bech32 text, or a human-readable part none. -/
inductive Bech32Error where
  | missingSeparator
  | invalidChecksum
  | invalidLength
  | invalidChar (c : Char)
  | mixedCase
  deriving DecidableEq, Repr

/-- The wording of an error. -/
def Bech32Error.message : Bech32Error → String
  | .missingSeparator => "missing human-readable separator, \"1\""
  | .invalidChecksum => "invalid checksum"
  | .invalidLength => "invalid length"
  | .invalidChar c => s!"invalid character (code={c})"
  | .mixedCase => "mixed-case strings not allowed"

namespace Bech32

/-- The characters of the words 0 to 31. -/
def charset : List Char := "qpzry9x8gf2tvdw0s3jn54khce6mua7l".toList

/-- The character of a word. -/
def charOf (w : Word) : Char := charset.getD w.toNat 'q'

/-- The word of a small character. -/
def wordOf? (c : Char) : Option Word := (charset.idxOf? c).map (BitVec.ofNat 5)

/-- The letter case that a text has shown so far. -/
inductive LetterCase where
  | either
  | small
  | capital
  deriving DecidableEq, Repr

/-- The letter case after one more character, or none at a clash. -/
def LetterCase.add? (shown : LetterCase) (c : Char) : Option LetterCase :=
  if c.isLower then (if shown = .capital then none else some .small)
  else if c.isUpper then (if shown = .small then none else some .capital)
  else some shown

/-- The separator of the two parts. -/
def separator : Char := '1'

/-- The longest human-readable part. -/
def maxHrpLength : Nat := 83

/-- The letter case of a human-readable part, judged byte by byte. -/
def hrpCase (shown : LetterCase) : Bytes → Except Bech32Error LetterCase
  | [] => .ok shown
  | b :: bs =>
    let c := Char.ofNat b.toNat
    if b < 33 || 126 < b then .error (.invalidChar c)
    else match shown.add? c with
      | some next => hrpCase next bs
      | none => .error .mixedCase

/-- Judges a human-readable part: its length, then its bytes. -/
def checkHrp (hrp : String) : Except Bech32Error LetterCase :=
  if hrp.utf8ByteSize = 0 || maxHrpLength < hrp.utf8ByteSize then .error .invalidLength
  else hrpCase .either (utf8 hrp)

/-- The words of a data part: each character must be ASCII, keep to the letter case, and belong to
    the charset, in that order. -/
def dataWords (shown : LetterCase) : List Char → Except Bech32Error (List Word)
  | [] => .ok []
  | c :: cs =>
    if 128 ≤ c.toNat then .error (.invalidChar c)
    else match shown.add? c with
      | none => .error .mixedCase
      | some next =>
        match wordOf? c.toLower with
        | none => .error (.invalidChar c)
        | some w => (dataWords next cs).map (w :: ·)

/-- The human-readable part, in small letters, and the words of a text, checksum removed. -/
def decode (s : String) : Except Bech32Error (String × List Word) :=
  match splitLast? separator s.toList with
  | none => .error .missingSeparator
  | some (hrpChars, data) => do
    let shown ← checkHrp (String.ofList hrpChars)
    let words ← dataWords shown data
    let hrp := hrpChars.map Char.toLower
    if words.length < checksumLength then .error .invalidLength
    else if isSound hrp words then
      .ok (String.ofList hrp, words.take (words.length - checksumLength))
    else .error .invalidChecksum

/-- The text of a human-readable part and words. -/
def encode (hrp : String) (words : List Word) : Except Bech32Error String := do
  let _ ← checkHrp hrp
  let small := hrp.toList.map Char.toLower
  .ok (String.ofList (small ++ separator :: (words ++ checksum small words).map charOf))

end Bech32

end LightningLottery
