/-
  Percent encoding: bytes of a text written as a percent sign and two capital hexadecimal digits.

  * `Percent.controls` and the larger classes built on it: what must be so written in each part
    of a URL.
  * `Percent.encode`: a text in which the characters of a class are written so, byte by byte.
  * `Percent.decode`: the bytes that such a text stands for; a percent sign that no two digits
    follow stands for itself.
-/
import LightningLottery.Text.Hex

namespace LightningLottery
namespace Percent

/-! ## What must be encoded -/

/-- Control characters, and everything outside of ASCII. -/
def controls (c : Char) : Bool := c.toNat < 0x20 || 0x7E < c.toNat

/-- What a fragment does not hold: besides controls, the space, the double quote, angle brackets
    and the grave accent. -/
def inFragment (c : Char) : Bool :=
  controls c || c == ' ' || c == '"' || c == '<' || c == '>' || c.toNat == 0x60

/-- What a segment of a path does not hold. -/
def inPath (c : Char) : Bool :=
  inFragment c || c == '#' || c == '?' || c.toNat == 0x7B || c.toNat == 0x7D

/-- What a user name or a password does not hold. -/
def inUserinfo (c : Char) : Bool := inPath c || "/:;=@[\\]^|".toList.contains c

/-- What a query does not hold. -/
def inQuery (c : Char) : Bool :=
  controls c || c == ' ' || c == '"' || c == '#' || c == '<' || c == '>'

/-- What a query of a special scheme does not hold: the apostrophe, too. -/
def inSpecialQuery (c : Char) : Bool := inQuery c || c.toNat == 0x27

/-! ## Encoding and decoding -/

/-- A byte as a percent sign and two capital digits. -/
def triple (b : UInt8) : List Char := '%' :: (hexByte b).map Char.toUpper

/-- The characters of a class are written as the triples of their bytes; the others stay. -/
def encode (mustEncode : Char → Bool) (cs : List Char) : List Char :=
  cs.flatMap fun c => if mustEncode c then (String.utf8EncodeChar c).flatMap triple else [c]

/-- The value of a byte that is a hexadecimal digit. -/
def digit? (b : UInt8) : Option Nat := hexValue? (Char.ofNat b.toNat)

/-- The bytes that a percent-encoded text stands for. -/
def decode : Bytes → Bytes
  | 0x25 :: hi :: lo :: rest =>
    match digit? hi, digit? lo with
    | some h, some l => UInt8.ofNat (h * 16 + l) :: decode rest
    | _, _ => 0x25 :: decode (hi :: lo :: rest)
  | b :: rest => b :: decode rest
  | [] => []

end Percent
end LightningLottery
