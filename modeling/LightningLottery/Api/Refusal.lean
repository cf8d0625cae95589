/-
  The message of a refused request.

  * `shortened`: a text that is too long is cut at a character, with the number of bytes left out.
  * `refusalMessage`: the message in the body, or else the body itself, shortened.
-/
import LightningLottery.Wire.Reply

namespace LightningLottery

/-- The most bytes of a body that make up a message. -/
def maxMessageBytes : Nat := 512

/-- The characters in front that fit into so many bytes. -/
def fitting (room : Nat) : List Char → List Char
  | [] => []
  | c :: cs => if c.utf8Size ≤ room then c :: fitting (room - c.utf8Size) cs else []

/-- A text of at most the given bytes as it is, a longer one cut before the first character that
    does not fit, with the number of bytes left out. -/
def shortened (max : Nat) (s : String) : String :=
  if s.utf8ByteSize ≤ max then s
  else
    let kept := String.ofList (fitting max s.toList)
    kept ++ "...[+" ++ decimalText (s.utf8ByteSize - kept.utf8ByteSize) ++ "B]"

/-- The message of a refused request with this body. -/
def refusalMessage (body : Bytes) : String :=
  (refusalText? body).getD (shortened maxMessageBytes (Utf8.decodeLossy body))

end LightningLottery
