/-
  Hexadecimal text.

  * `isHex`, `isHexKey`: a text of digits, and one of exactly 64 of them (a key or a digest).
  * `hexEncode`: two small digits for each byte; `hexDecode?` undoes it in either letter case.
  * `hexEncodeText`: the code points of a text, each in at least two digits.
  * `decodeHexKey`: the 32 bytes that a key text denotes.
-/
import LightningLottery.Text.Utf8

namespace LightningLottery

/-- The value of a hexadecimal digit, in either letter case. -/
def hexValue? (c : Char) : Option Nat :=
  if '0' ≤ c && c ≤ '9' then some (c.toNat - 48)
  else if 'a' ≤ c && c ≤ 'f' then some (c.toNat - 87)
  else if 'A' ≤ c && c ≤ 'F' then some (c.toNat - 55)
  else none

/-- The small hexadecimal digit of a value below 16. -/
def hexDigit (n : Nat) : Char :=
  if n < 10 then Char.ofNat (48 + n) else Char.ofNat (87 + n)

/-- A text of at least one hexadecimal digit and nothing else. -/
def isHex (s : String) : Bool :=
  !s.toList.isEmpty && s.toList.all fun c => (hexValue? c).isSome

/-- The number of digits of a key: two for each of its 32 bytes. -/
def keyDigits : Nat := 64

/-- A text of 64 hexadecimal digits. -/
def isHexKey (s : String) : Bool := s.utf8ByteSize == keyDigits && isHex s

/-- The two digits of a byte. -/
def hexByte (b : UInt8) : List Char := [hexDigit (b.toNat / 16), hexDigit (b.toNat % 16)]

/-- Two small digits for each byte. -/
def hexEncode (bs : Bytes) : String := String.ofList (bs.flatMap hexByte)

/-- The small hexadecimal digits of a number, without leading zeros. -/
def hexDigitsOf (n : Nat) : List Char :=
  if n < 16 then [hexDigit n] else hexDigitsOf (n / 16) ++ [hexDigit (n % 16)]

/-- Digits filled up with zeros on the left to at least the given width. -/
def zeroPadded (width : Nat) (digits : List Char) : List Char :=
  List.replicate (width - digits.length) '0' ++ digits

/-- The code point of each character in at least two digits; a code point above U+00FF takes
    more, so only for smaller ones is this an encoding of bytes. -/
def hexEncodeText (s : String) : String :=
  String.ofList (s.toList.flatMap fun c => zeroPadded 2 (hexDigitsOf c.toNat))

/-- The bytes that pairs of digits denote. -/
def hexBytes? : List Char → Option Bytes
  | [] => some []
  | [_] => none
  | c :: d :: rest => do
    let hi ← hexValue? c
    let lo ← hexValue? d
    let bs ← hexBytes? rest
    return UInt8.ofNat (hi * 16 + lo) :: bs

/-- The bytes that a text of digit pairs denotes. -/
def hexDecode? (s : String) : Option Bytes := hexBytes? s.toList

/-- Why a text is no key. -/
inductive KeyFault where
  /-- It does not take 64 bytes. -/
  | length
  /-- It holds something else than digits. -/
  | digits
  deriving DecidableEq, Repr

/-- The 32 bytes that a key text denotes. -/
def decodeHexKey (s : String) : Except KeyFault Bytes :=
  if s.utf8ByteSize ≠ keyDigits then .error .length
  else match hexDecode? s with
    | some bs => .ok bs
    | none => .error .digits

/-- The number that a text of digits denotes, the first digit counting most. -/
def hexNumber (s : String) : Nat :=
  s.toList.foldl (fun n c => n * 16 + (hexValue? c).getD 0) 0

end LightningLottery
