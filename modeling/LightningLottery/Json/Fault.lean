/-
  What can be wrong with a JSON text.

  * `Json.Fault`: the class of the first problem met reading left to right.
-/

namespace LightningLottery

/-- The class of the first problem of a JSON text. -/
inductive Json.Fault where
  /-- The text follows no rule of the grammar, or holds a number or a character that no value of
      its kind can have. -/
  | malformed
  /-- The text is well formed so far, but the value is not the one asked for. -/
  | misfit
  /-- The text ends too early. -/
  | unfinished
  deriving DecidableEq, Repr

/-- The wording of a fault. -/
def Json.Fault.message : Json.Fault → String
  | .malformed => "malformed text"
  | .misfit => "unexpected value"
  | .unfinished => "unexpected end of text"

end LightningLottery
