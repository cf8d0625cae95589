/-
  Cutting character sequences at a character.

  * `splitOn`: all pieces; `joinWith` puts them together again.
  * `splitFirst?`, `splitLast?`: the parts before and after the first or the last occurrence.
-/

namespace LightningLottery

/-- The pieces between occurrences of a character; there is always at least one. -/
def splitOn (separator : Char) : List Char → List (List Char)
  | [] => [[]]
  | c :: rest =>
    if c = separator then [] :: splitOn separator rest
    else match splitOn separator rest with
      | [] => [[c]]
      | piece :: pieces => (c :: piece) :: pieces

/-- Pieces joined by a character. -/
def joinWith (separator : Char) : List (List Char) → List Char
  | [] => []
  | [piece] => piece
  | piece :: pieces => piece ++ separator :: joinWith separator pieces

/-- The parts of a character sequence before and after the first occurrence of a character. -/
def splitFirst? (c : Char) (cs : List Char) : Option (List Char × List Char) :=
  match cs.dropWhile (· != c) with
  | [] => none
  | _ :: after => some (cs.takeWhile (· != c), after)

/-- The parts of a character sequence before and after the last occurrence of a character. -/
def splitLast? (c : Char) (cs : List Char) : Option (List Char × List Char) :=
  (splitFirst? c cs.reverse).map fun (after, before) => (before.reverse, after.reverse)

end LightningLottery
