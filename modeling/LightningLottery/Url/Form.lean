/-
  Names and values in the query of a URL, form-urlencoded.

  * `Form.encode`: letters, digits and `*-._` stay, a space is written as a plus sign, and all
    else as percent triples.
  * `Form.write`: the pairs in order, `name=value` joined by `&`.
  * `Form.read`: the pairs of a query.
-/
import LightningLottery.Text.Split
import LightningLottery.Url.Percent

namespace LightningLottery
namespace Form

/-- What stands for itself. -/
def isPlain (c : Char) : Bool := c.isAlphanum || c == '*' || c == '-' || c == '.' || c == '_'

/-- One character. -/
def encodeChar (c : Char) : List Char :=
  if c == ' ' then ['+']
  else if isPlain c then [c]
  else (String.utf8EncodeChar c).flatMap Percent.triple

/-- A name or a value. -/
def encode (s : String) : List Char := s.toList.flatMap encodeChar

/-- A name and its value. -/
abbrev Pair := String × String

/-- A pair as `name=value`. -/
def writePair (p : Pair) : List Char := encode p.1 ++ '=' :: encode p.2

/-- The pairs in order. -/
def write (pairs : List Pair) : List Char := joinWith '&' (pairs.map writePair)

/-- The text that an encoded name or value stands for. -/
def decode (cs : List Char) : String :=
  let spaced := cs.map fun c => if c == '+' then ' ' else c
  Utf8.decodeLossy (Percent.decode (spaced.flatMap String.utf8EncodeChar))

/-- The pair that a piece of a query stands for; without an equals sign the value is empty. -/
def readPair (piece : List Char) : Pair :=
  match splitFirst? '=' piece with
  | some (name, value) => (decode name, decode value)
  | none => (decode piece, "")

/-- The pairs of a query; an empty piece is none. -/
def read (query : List Char) : List Pair :=
  ((splitOn '&' query).filter fun piece => !piece.isEmpty).map readPair

end Form
end LightningLottery
