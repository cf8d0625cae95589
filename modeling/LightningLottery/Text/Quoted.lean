/-
  Quoted text for diagnostics.

  * `quoted`: a text between double quotes; quotes, backslashes, the common control characters
    and everything not printable are written as escapes.
-/
import LightningLottery.Text.Hex
import LightningLottery.Text.Printable

namespace LightningLottery

/-- A character inside double quotes. -/
def quotedChar (c : Char) : List Char :=
  if c.toNat = 0 then ['\\', '0']
  else if c = '\t' then ['\\', 't']
  else if c = '\r' then ['\\', 'r']
  else if c = '\n' then ['\\', 'n']
  else if c = '\\' || c = '"' then ['\\', c]
  else if isPrintable c then [c]
  else '\\' :: 'u' :: '\x7b' :: hexDigitsOf c.toNat ++ ['\x7d']

/-- A text between double quotes. -/
def quoted (s : String) : String :=
  String.ofList ('"' :: s.toList.flatMap quotedChar ++ ['"'])

end LightningLottery
