/-
  The leaves of JSON: words, numbers and quoted texts.

  A leaf is read for its value, or passed over when nobody asks for it. Passing over asks less: a
  number may be too large, and a text may hold half a surrogate pair or bytes that are no UTF-8.

  * `Json.skipBlanks`: what follows blanks.
  * `Json.readNumber`, `Json.skipNumber`: a number at the front.
  * `Json.readText`, `Json.skipText`: a text after its opening quote.
-/
import LightningLottery.Json.Value
import LightningLottery.Text.Utf8
import LightningLottery.Word64

namespace LightningLottery.Json

/-- The byte of an ASCII character. -/
def byte (c : Char) : UInt8 := UInt8.ofNat c.toNat

/-- The blanks between tokens. -/
def isBlankByte (b : UInt8) : Bool := b == 0x20 || b == 0x0A || b == 0x09 || b == 0x0D

/-- What follows blanks. -/
def skipBlanks (bs : Bytes) : Bytes := bs.dropWhile isBlankByte

/-- The rest of a word such as `null`, after its first letter. -/
def skipWord : List Char → Bytes → Except Fault Bytes
  | [], bs => .ok bs
  | _ :: _, [] => .error .unfinished
  | c :: cs, b :: bs => if b == byte c then skipWord cs bs else .error .malformed

/-! ## Numbers -/

/-- A decimal digit. -/
def isDigitByte (b : UInt8) : Bool := 0x30 ≤ b && b ≤ 0x39

/-- The value of a decimal digit. -/
def digitOf (b : UInt8) : Nat := b.toNat - 0x30

/-- The digits at the front, and what follows them. -/
def digits (bs : Bytes) : List Nat × Bytes :=
  ((bs.takeWhile isDigitByte).map digitOf, bs.dropWhile isDigitByte)

/-- A number as it is written: its sign, the digits before and after the point, and the exponent,
    where there are any. -/
structure Numeral where
  negative : Bool
  whole : List Nat
  fraction : Option (List Nat)
  exponent : Option (Bool × List Nat)
  deriving DecidableEq, Repr

/-- A fault where digits are due: the end of the text counts as one that `atEnd` names. -/
def missingDigits (atEnd : Fault) : Bytes → Fault
  | [] => atEnd
  | _ => .malformed

/-- The digits before the point: one zero, or digits that begin with another one. -/
def wholePart (atEnd : Fault) (bs : Bytes) : Except Fault (List Nat × Bytes) :=
  match digits bs with
  | ([], rest) => .error (missingDigits atEnd rest)
  | (0 :: _ :: _, _) => .error .malformed
  | (ds, rest) => .ok (ds, rest)

/-- The point and the digits after it, if a point is there. -/
def fractionPart (atEnd : Fault) : Bytes → Except Fault (Option (List Nat) × Bytes)
  | [] => .ok (none, [])
  | b :: bs =>
    if b == byte '.' then
      match digits bs with
      | ([], rest) => .error (missingDigits atEnd rest)
      | (ds, rest) => .ok (some ds, rest)
    else .ok (none, b :: bs)

/-- The sign of an exponent, and what follows it. -/
def exponentSign : Bytes → Bool × Bytes
  | [] => (false, [])
  | b :: bs =>
    if b == byte '-' then (true, bs) else if b == byte '+' then (false, bs) else (false, b :: bs)

/-- The exponent, if one is there. -/
def exponentPart (atEnd : Fault) : Bytes → Except Fault (Option (Bool × List Nat) × Bytes)
  | [] => .ok (none, [])
  | b :: bs =>
    if b == byte 'e' || b == byte 'E' then
      let (negative, rest) := exponentSign bs
      match digits rest with
      | ([], rest) => .error (missingDigits atEnd rest)
      | (ds, rest) => .ok (some (negative, ds), rest)
    else .ok (none, b :: bs)

/-- The number at the front, as it is written. -/
def numeral (atEnd : Fault) (bs : Bytes) : Except Fault (Numeral × Bytes) := do
  let (negative, bs) := match bs with
    | [] => (false, [])
    | b :: rest => if b == byte '-' then (true, rest) else (false, b :: rest)
  let (whole, bs) ← wholePart atEnd bs
  let (fraction, bs) ← fractionPart atEnd bs
  let (exponent, bs) ← exponentPart atEnd bs
  return (⟨negative, whole, fraction, exponent⟩, bs)

/-- What follows the number at the front. -/
def skipNumber (bs : Bytes) : Except Fault Bytes := (numeral .malformed bs).map (·.2)

/-- Takes digits into a significand as long as it has at most 64 bits; gives it and the number of
    digits that are left. -/
def significand (n : Nat) : List Nat → Nat × Nat
  | [] => (n, 0)
  | d :: ds => if n * 10 + d < wordLimit then significand (n * 10 + d) ds else (n, ds.length + 1)

/-- The number that digits denote. -/
def ofDigits (ds : List Nat) : Nat := ds.foldl (fun n d => n * 10 + d) 0

/-- A number rounded to 53 significant bits, a half going to the even neighbour. -/
def round53 (n : Nat) : Nat :=
  let extra := Nat.log2 n + 1 - 53
  let unit := 1 <<< extra
  let q := n / unit
  let r := n % unit
  let up := decide (unit < 2 * r) || (2 * r == unit && q % 2 == 1)
  if extra = 0 then n else (if up then q + 1 else q) * unit

/-- The least number that a 64-bit float rounds to infinity. -/
def floatLimit : Nat := (1 <<< 1024) - (1 <<< 970)

/-- The greatest power of ten that is a 64-bit float. -/
def maxPower : Nat := 308

/-- Whether a significand times a power of ten is finite as a 64-bit float. -/
def isFinite (significand : Nat) (exponent : Int) : Bool :=
  if significand = 0 || exponent ≤ 0 then true
  else if maxPower < exponent.toNat then false
  else round53 significand * round53 (Nat.pow 10 exponent.toNat) < floatLimit

/-- The value of a number as it is written. One with a point or an exponent, negative zero, and
    one of more than 64 bits is no whole number; it must be finite as a 64-bit float. -/
def Numeral.value (n : Numeral) : Except Fault JsonNumber :=
  let (s, left) := significand 0 n.whole
  let isWhole := n.fraction.isNone && n.exponent.isNone && left == 0
  if isWhole && !n.negative then .ok (.whole s)
  else if isWhole && s != 0 && decide (s ≤ 9223372036854775808) then .ok (.whole (-(s : Int)))
  else
    let (s, exponent) := match n.fraction with
      | none => (s, (left : Int))
      | some ds =>
        let (t, unread) := significand s ds
        (t, (left : Int) - ((ds.length - unread : Nat) : Int))
    let exponent := match n.exponent with
      | none => exponent
      | some (true, ds) => exponent - (ofDigits ds : Int)
      | some (false, ds) => exponent + (ofDigits ds : Int)
    if isFinite s exponent then .ok (.real n.negative s exponent) else .error .malformed

/-- The value of the number at the front. -/
def readNumber (bs : Bytes) : Except Fault JsonNumber := do
  let (n, _) ← numeral .unfinished bs
  n.value

/-! ## Texts -/

/-- The value of a hexadecimal digit. -/
def hexOf? (b : UInt8) : Option Nat := hexValue? (Char.ofNat b.toNat)

/-- The number in four hexadecimal digits, and what follows them. -/
def fourDigits : Bytes → Except Fault (Nat × Bytes)
  | a :: b :: c :: d :: rest =>
    match hexOf? a, hexOf? b, hexOf? c, hexOf? d with
    | some a, some b, some c, some d => .ok (((a * 16 + b) * 16 + c) * 16 + d, rest)
    | _, _, _, _ => .error .malformed
  | _ => .error .unfinished

/-- What the escape of one letter stands for. -/
def simpleEscape? (b : UInt8) : Option UInt8 :=
  if b == byte '"' || b == byte '\\' || b == byte '/' then some b
  else if b == byte 'b' then some 0x08
  else if b == byte 'f' then some 0x0C
  else if b == byte 'n' then some 0x0A
  else if b == byte 'r' then some 0x0D
  else if b == byte 't' then some 0x09
  else none

/-- The second half of a surrogate pair, whose first half is `high`. -/
def lowSurrogate (high : Nat) : Bytes → Except Fault (Nat × Bytes)
  | [] => .error .unfinished
  | b :: bs =>
    if b != byte '\\' then .error .malformed
    else match bs with
      | [] => .error .unfinished
      | c :: cs =>
        if c != byte 'u' then .error .malformed
        else do
          let (low, rest) ← fourDigits cs
          if 0xDC00 ≤ low && low ≤ 0xDFFF then
            return ((high - 0xD800) * 1024 + (low - 0xDC00) + 0x10000, rest)
          else .error .malformed

/-- The code point after `\u`, and what follows it. -/
def codePoint (bs : Bytes) : Except Fault (Nat × Bytes) := do
  let (n, rest) ← fourDigits bs
  if 0xDC00 ≤ n && n ≤ 0xDFFF then .error .malformed
  else if 0xD800 ≤ n && n ≤ 0xDBFF then lowSurrogate n rest
  else return (n, rest)

/-- The bytes that an escape stands for, after its backslash, and what follows it. -/
def readEscape : Bytes → Except Fault (Bytes × Bytes)
  | [] => .error .unfinished
  | b :: bs =>
    match simpleEscape? b with
    | some c => .ok ([c], bs)
    | none =>
      if b == byte 'u' then do
        let (n, rest) ← codePoint bs
        return (String.utf8EncodeChar (Char.ofNat n), rest)
      else .error .malformed

/-- What follows an escape, after its backslash. -/
def skipEscape : Bytes → Except Fault Bytes
  | [] => .error .unfinished
  | b :: bs =>
    match simpleEscape? b with
    | some _ => .ok bs
    | none => if b == byte 'u' then (fourDigits bs).map (·.2) else .error .malformed

/-- The first byte that is no control character. -/
def firstPrintable : UInt8 := 0x20

/-- The bytes of a text after its opening quote. The fuel bounds its length. -/
def readTextBytes : Nat → Bytes → Except Fault Bytes
  | 0, _ => .error .unfinished
  | _ + 1, [] => .error .unfinished
  | fuel + 1, b :: bs =>
    if b == byte '"' then .ok []
    else if b == byte '\\' then do
      let (bytes, rest) ← readEscape bs
      return bytes ++ (← readTextBytes fuel rest)
    else if b < firstPrintable then .error .malformed
    else return b :: (← readTextBytes fuel bs)

/-- The value of a text after its opening quote, which must be UTF-8. -/
def readText (bs : Bytes) : Except Fault String := do
  let bytes ← readTextBytes (bs.length + 1) bs
  match Utf8.decode bytes with
  | .ok s => .ok s
  | .error _ => .error .malformed

/-- What follows a text, after its opening quote. The fuel bounds its length. -/
def skipTextBytes : Nat → Bytes → Except Fault Bytes
  | 0, _ => .error .unfinished
  | _ + 1, [] => .error .unfinished
  | fuel + 1, b :: bs =>
    if b == byte '"' then .ok bs
    else if b == byte '\\' then do skipTextBytes fuel (← skipEscape bs)
    else if b < firstPrintable then .error .malformed
    else skipTextBytes fuel bs

/-- What follows a text, after its opening quote. -/
def skipText (bs : Bytes) : Except Fault Bytes := skipTextBytes (bs.length + 1) bs

end LightningLottery.Json
