/-
  Tables over code points.

  * `inEdges`: a set of code points, given by the places where it begins and ends in turn.
  * `valueAt`: a function of code points, given by the places where its value changes.
-/

namespace LightningLottery

/-- Whether a code point is in the set that begins at the first edge, ends before the second, begins
    again at the third, and so on. -/
def inEdges (edges : List Nat) (code : Nat) : Bool :=
  (edges.takeWhile (· ≤ code)).length % 2 == 1

/-- The value at a code point: that of the last change up to it, and `start` before the first. -/
def valueAt {α : Type} (start : α) (changes : List (Nat × α)) (code : Nat) : α :=
  ((changes.takeWhile (·.1 ≤ code)).getLast?.map (·.2)).getD start

end LightningLottery
