/-
  Blank characters: the Unicode property White_Space, and trimming by it.

  * `isBlank`: the twenty-five characters of the property.
  * `trim`: a text without the blanks at its two ends.
-/

namespace LightningLottery

/-- The property White_Space. -/
def isBlank (c : Char) : Bool :=
  let n := c.toNat
  (0x09 ≤ n && n ≤ 0x0D) || n == 0x20 || n == 0x85 || n == 0xA0 || n == 0x1680 ||
    (0x2000 ≤ n && n ≤ 0x200A) || n == 0x2028 || n == 0x2029 || n == 0x202F || n == 0x205F ||
    n == 0x3000

/-- A character sequence without the characters of the class at its end. -/
def dropWhileRight (p : Char → Bool) (cs : List Char) : List Char :=
  (cs.reverse.dropWhile p).reverse

/-- A character sequence without blanks at its two ends. -/
def trimChars (cs : List Char) : List Char := dropWhileRight isBlank (cs.dropWhile isBlank)

/-- A text without blanks at its two ends. -/
def trim (s : String) : String := String.ofList (trimChars s.toList)

/-- A text in which the letters A to Z are made small; all else stays. -/
def asciiLower (s : String) : String := s.map Char.toLower

/-- A text in which the letters a to z are made capital; all else stays. -/
def asciiUpper (s : String) : String := s.map Char.toUpper

/-- Equality that does not tell a letter A to Z from its small form. -/
def eqIgnoringCase (s t : String) : Bool := asciiLower s == asciiLower t

/-- The text after a given start, if it has that start. -/
def stripStart? (start s : String) : Option String :=
  if start.toList.isPrefixOf s.toList then some (String.ofList (s.toList.drop start.length))
  else none

/-- Whether a text starts so. -/
def startsWith (s start : String) : Bool := start.toList.isPrefixOf s.toList

end LightningLottery
