/-
  Numbers for people: decimal digits in groups of three.

  * `decimal`: the decimal digits of a natural number.
  * `groupDigits`: a separator before each third digit from the right.
  * `beautify`: a signed number so grouped, its sign in front.
-/

namespace LightningLottery

/-- The decimal digit of a value below ten. -/
def decimalDigit (n : Nat) : Char := Char.ofNat (48 + n)

/-- The decimal digits of a number, without leading zeros. -/
def decimal (n : Nat) : List Char :=
  if n < 10 then [decimalDigit n] else decimal (n / 10) ++ [decimalDigit (n % 10)]

/-- The decimal text of a number. -/
def decimalText (n : Nat) : String := String.ofList (decimal n)

/-- A separator before each digit that a multiple of three digits, itself included, is left at;
    none before the first. -/
def groupTail (separator : List Char) : List Char → List Char
  | [] => []
  | c :: rest =>
    (if (rest.length + 1) % 3 == 0 then separator else []) ++ c :: groupTail separator rest

/-- Digits in groups of three from the right, joined by a separator. -/
def groupDigits (separator : List Char) : List Char → List Char
  | [] => []
  | c :: rest => c :: groupTail separator rest

/-- The separator used where none is named. -/
def defaultSeparator : String := ","

/-- A signed number with its digits in groups of three. -/
def beautify (n : Int64) (separator : String) : String :=
  let magnitude := groupDigits separator.toList (decimal n.toInt.natAbs)
  String.ofList (if n.toInt < 0 then '-' :: magnitude else magnitude)

end LightningLottery
