/-
  Clock texts: components of digits between colons.

  * `formatTime`: each component of one byte gets a leading zero; a text of eight bytes is taken
    to be complete.
-/
import LightningLottery.Text.Split

namespace LightningLottery

/-- The bytes that a character sequence takes. -/
def byteCount (cs : List Char) : Nat := cs.foldl (fun n c => n + c.utf8Size) 0

/-- A clock component of one byte gets a leading zero. -/
def padComponent (component : List Char) : List Char :=
  if byteCount component = 1 then '0' :: component else component

/-- The length of a complete clock text, two digits in each of three components. -/
def completeClockLength : Nat := 8

/-- A clock text with its one-digit components padded. -/
def formatTime (s : String) : String :=
  if s.utf8ByteSize = completeClockLength then s
  else String.ofList (joinWith ':' ((splitOn ':' s.toList).map padComponent))

end LightningLottery
