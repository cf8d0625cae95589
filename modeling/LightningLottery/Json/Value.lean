/-
  JSON values.

  * `JsonNumber`: a whole number of at most 64 bits, or anything else that a number text denotes.
  * `Json`: a value; the members of an object keep their order.
  * `Json.compact`, `Json.indented`: a value as text, compact or over several lines.
-/
import LightningLottery.Json.Fault
import LightningLottery.Text.Grouped
import LightningLottery.Text.Hex

namespace LightningLottery

/-- A number: whole and of at most 64 bits, or the significand and the power of ten of any other. -/
inductive JsonNumber where
  | whole (value : Int)
  | real (negative : Bool) (significand : Nat) (exponent : Int)
  deriving DecidableEq, Repr

/-- A JSON value. -/
inductive Json where
  | null
  | flag (value : Bool)
  | number (value : JsonNumber)
  | text (value : String)
  | list (items : List Json)
  | object (members : List (String × Json))
  deriving Repr

/-- The decimal text of a signed number. -/
def signedText (n : Int) : List Char := if n < 0 then '-' :: decimal n.natAbs else decimal n.natAbs

namespace JsonNumber

/-- The text of a number. -/
def chars : JsonNumber → List Char
  | .whole n => signedText n
  | .real negative significand exponent =>
    (if negative then ['-'] else []) ++ decimal significand ++ 'e' :: signedText exponent

end JsonNumber

namespace Json

/-- A character inside a text: quotes, backslashes and control characters are escaped. -/
def escaped (c : Char) : List Char :=
  if c = '"' then ['\\', '"']
  else if c = '\\' then ['\\', '\\']
  else if c.toNat = 8 then ['\\', 'b']
  else if c.toNat = 9 then ['\\', 't']
  else if c.toNat = 10 then ['\\', 'n']
  else if c.toNat = 12 then ['\\', 'f']
  else if c.toNat = 13 then ['\\', 'r']
  else if c.toNat < 32 then '\\' :: 'u' :: zeroPadded 4 (hexDigitsOf c.toNat)
  else [c]

/-- A text between quotes. -/
def literal (s : String) : List Char := '"' :: s.toList.flatMap escaped ++ ['"']

mutual

/-- The characters of a value, without blanks. -/
def chars : Json → List Char
  | .null => ['n', 'u', 'l', 'l']
  | .flag true => ['t', 'r', 'u', 'e']
  | .flag false => ['f', 'a', 'l', 's', 'e']
  | .number n => n.chars
  | .text s => literal s
  | .list [] => ['[', ']']
  | .list (item :: items) => '[' :: item.chars ++ charsOfItems items
  | .object [] => ['\x7b', '\x7d']
  | .object ((key, value) :: members) =>
    '\x7b' :: literal key ++ ':' :: value.chars ++ charsOfMembers members

/-- The items after the first, and the end of the list. -/
def charsOfItems : List Json → List Char
  | [] => [']']
  | item :: items => ',' :: item.chars ++ charsOfItems items

/-- The members after the first, and the end of the object. -/
def charsOfMembers : List (String × Json) → List Char
  | [] => ['\x7d']
  | (key, value) :: members => ',' :: literal key ++ ':' :: value.chars ++ charsOfMembers members

end

/-- The compact text of a value. -/
def compact (v : Json) : String := String.ofList v.chars

/-- A new line at a depth, two spaces for each level. -/
def newLine (depth : Nat) : List Char := '\n' :: List.replicate (2 * depth) ' '

mutual

/-- The characters of a value inside `depth` others, each item and each member on a line. -/
def spread (depth : Nat) : Json → List Char
  | .list (item :: items) =>
    '[' :: newLine (depth + 1) ++ item.spread (depth + 1) ++ spreadItems depth items
  | .object ((key, value) :: members) =>
    '\x7b' :: newLine (depth + 1) ++ literal key ++ ':' :: ' ' :: value.spread (depth + 1) ++
      spreadMembers depth members
  | .null => Json.null.chars
  | .flag b => (Json.flag b).chars
  | .number n => (Json.number n).chars
  | .text s => (Json.text s).chars
  | .list [] => (Json.list []).chars
  | .object [] => (Json.object []).chars

/-- The items after the first, and the end of the list. -/
def spreadItems (depth : Nat) : List Json → List Char
  | [] => newLine depth ++ [']']
  | item :: items =>
    ',' :: newLine (depth + 1) ++ item.spread (depth + 1) ++ spreadItems depth items

/-- The members after the first, and the end of the object. -/
def spreadMembers (depth : Nat) : List (String × Json) → List Char
  | [] => newLine depth ++ ['\x7d']
  | (key, value) :: members =>
    ',' :: newLine (depth + 1) ++ literal key ++ ':' :: ' ' :: value.spread (depth + 1) ++
      spreadMembers depth members

end

/-- The text of a value over several lines. -/
def indented (v : Json) : String := String.ofList (v.spread 0)

end Json

end LightningLottery
