/-
  Written ways through a file system.

  * `Route.ofText`: the steps of a text, between slashes.
  * `Route.child`: the way to a name in a directory.
  * `Route.outward`: a way and the shorter ones that make up its directories.
-/
import LightningLottery.Text.Split

namespace LightningLottery

/-- One step of a way. -/
inductive Step where
  /-- To what has this name in the directory. -/
  | name (text : String)
  /-- Nowhere: a single dot. -/
  | here
  /-- To the directory above: a double dot. -/
  | above
  deriving DecidableEq, Repr

/-- A way from the root as it is written. -/
structure Route where
  steps : List Step
  /-- A slash at the end: the way leads to directories only. -/
  isFolder : Bool
  /-- The number of bytes of its text. -/
  size : Nat
  /-- Whether its text holds a NUL. -/
  hasNul : Bool
  deriving DecidableEq, Repr

namespace Route

/-- The step that a text between slashes stands for, if it is not empty. -/
def stepOf? (text : String) : Option Step :=
  if text = "" then none
  else if text = "." then some .here
  else if text = ".." then some .above
  else some (.name text)

/-- The way that a text below the root denotes; `root` is the text for the root. -/
def ofText (root text : String) : Route :=
  let pieces := (splitOn '/' text.toList).map String.ofList
  ⟨pieces.filterMap stepOf?, pieces.getLast? == some "", root.utf8ByteSize + 1 + text.utf8ByteSize,
    text.toList.contains (Char.ofNat 0)⟩

/-- The way to a name in the directory at a way. -/
def child (route : Route) (name : String) : Route :=
  ⟨route.steps ++ [.name name], false,
    route.size + (if route.isFolder then 0 else 1) + name.utf8ByteSize, route.hasNul⟩

/-- The ways to the directories above, nearest first, for steps given from the last one to the
    first; single dots at their ends are left out. -/
def enclosing : List Step → List (List Step)
  | [] => []
  | .here :: before => enclosing before
  | _ :: before => (before.dropWhile (· == .here)).reverse :: enclosing before

/-- The steps of a way, and those of the ways to the directories above it, nearest first. -/
def outward (route : Route) : List (List Step) := route.steps :: enclosing route.steps.reverse

end Route
end LightningLottery
