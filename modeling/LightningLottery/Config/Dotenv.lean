/-
  Files of variables: lines `NAME=value`, read before the environment is asked.

  * `Dotenv.logicalLines`: the lines of a file, where a quoted value may go on over several.
  * `Dotenv.readValue`: the value that a text denotes, with quotes, escapes and variables resolved.
  * `Dotenv.load`: an environment with the variables of a file added. A variable that is set stays
    as it is, and a line that cannot be read ends the reading.
-/
import LightningLottery.Text.Alphanumeric
import LightningLottery.Text.Blank

namespace LightningLottery
namespace Dotenv

/-- Names with their values. -/
abbrev Variables := List (String × String)

/-- The value of a name. -/
def valueOf (environment : Variables) (name : String) : Option String := environment.lookup name

/-! ## Lines -/

/-- Where in a line the reading is. -/
inductive LinePlace where
  | text
  | escape
  | quoted (sign : Char)
  | quotedEscape (sign : Char)
  | blank
  deriving DecidableEq, Repr

/-- The apostrophe, between two of which all characters but the apostrophe stand for themselves. -/
def apostrophe : Char := Char.ofNat 0x27

/-- Where the reading is after a character outside of quotes. -/
def placeAfter (c : Char) : LinePlace :=
  if c == '\\' then .escape
  else if c == '"' || c == apostrophe then .quoted c
  else .text

/-- The place after one more character. -/
def LinePlace.next : LinePlace → Char → LinePlace
  | .text, c => if isBlank c && c != '\n' && c != '\r' then .blank else placeAfter c
  | .blank, c => placeAfter c
  | .escape, _ => .text
  | .quoted sign, c =>
    if c == '\\' then .quotedEscape sign else if c == sign then .text else .quoted sign
  | .quotedEscape sign, _ => .quoted sign

/-- Reads a line: the place at its end, or what stands before the comment that ends it. A comment
    starts with a number sign after a blank. -/
def scanLine (place : LinePlace) (read : List Char) : List Char → LinePlace ⊕ List Char
  | [] => .inl place
  | c :: rest =>
    if place = .blank && c == '#' then .inr read.reverse
    else scanLine (place.next c) (c :: read) rest

/-- The lines of a text, each with the line break that ends it. -/
def physicalLines : List Char → List (List Char)
  | [] => []
  | c :: rest =>
    if c = '\n' then ['\n'] :: physicalLines rest
    else match physicalLines rest with
      | [] => [[c]]
      | line :: lines => (c :: line) :: lines

/-- Joins lines as long as the end of one is not in plain text. An end of the file at such a place
    leaves an unreadable line, which counts as no line. -/
def joinLines (place : LinePlace) (before : List Char) : List (List Char) → List (List Char)
  | [] => []
  | line :: lines =>
    let whole := before ++ line
    if (whole.dropWhile isBlank).head? == some '#' then [] :: joinLines .text [] lines
    else match scanLine place [] line with
      | .inr kept => (before ++ kept) :: joinLines .text [] lines
      | .inl .text => whole :: joinLines .text [] lines
      | .inl place => joinLines place whole lines

/-- The lines of a file; the mark of byte order in front of it is none of its characters. -/
def logicalLines (content : String) : List (List Char) :=
  let cs := content.toList
  joinLines .text [] (physicalLines (if cs.head? == some (Char.ofNat 0xFEFF) then cs.tail else cs))

/-! ## Values -/

/-- Where in a value the reading is. Between double quotes blanks belong to the value. -/
inductive ValuePlace where
  | text (quoted : Bool)
  | escape (quoted : Bool)
  | literal
  /-- In the name of a variable after a dollar sign, with or without a brace. -/
  | name (quoted braced : Bool) (read : List Char)
  /-- After the value. -/
  | ended
  deriving DecidableEq, Repr

/-- What a character after a backslash stands for. -/
def escaped? (c : Char) : Option Char :=
  if c == '\\' || c == apostrophe || c == '"' || c == '$' || c == ' ' then some c
  else if c == 'n' then some '\n'
  else none

/-- The value that a text denotes, `resolve` giving the values of variables. None if a quote or a
    brace is open at the end, a backslash stands before something that it does not escape, or the
    value is followed by something else than a comment. -/
def readValue (resolve : List Char → List Char) : ValuePlace → List Char → Option (List Char)
  | .text quoted, [] => if quoted then none else some []
  | .escape quoted, [] => if quoted then none else some []
  | .literal, [] => none
  | .name quoted braced read, [] => if quoted || braced then none else some (resolve read.reverse)
  | .ended, [] => some []
  | .ended, c :: rest =>
    if c == ' ' || c == '\t' then readValue resolve .ended rest
    else if c == '#' then some []
    else none
  | .escape quoted, c :: rest =>
    match escaped? c with
    | some d => (readValue resolve (.text quoted) rest).map (d :: ·)
    | none => none
  | .literal, c :: rest =>
    if c == apostrophe then readValue resolve (.text false) rest
    else (readValue resolve .literal rest).map (c :: ·)
  | .name quoted braced read, c :: rest =>
    if isAlphanumeric c then readValue resolve (.name quoted braced (c :: read)) rest
    else if braced then
      if c.toNat == 0x7D then
        (readValue resolve (.text quoted) rest).map (resolve read.reverse ++ ·)
      else readValue resolve (.name quoted true (c :: read)) rest
    else if c.toNat == 0x7B && read.isEmpty then readValue resolve (.name quoted true []) rest
    else if c == '$' then
      (readValue resolve (.name quoted false []) rest).map (resolve read.reverse ++ ·)
    else (readValue resolve (.text quoted) rest).map (resolve read.reverse ++ c :: ·)
  | .text quoted, c :: rest =>
    if c == '$' then readValue resolve (.name quoted false []) rest
    else if c == '\\' then readValue resolve (.escape quoted) rest
    else if c == '"' then readValue resolve (.text (!quoted)) rest
    else if quoted then (readValue resolve (.text true) rest).map (c :: ·)
    else if c == apostrophe then readValue resolve .literal rest
    else if c == ' ' || c == '\t' then readValue resolve .ended rest
    else (readValue resolve (.text false) rest).map (c :: ·)

/-! ## Assignments -/

/-- What a name starts with. -/
def startsName (c : Char) : Bool := c.isAlpha || c == '_'

/-- What a name goes on with. -/
def continuesName (c : Char) : Bool := c.isAlphanum || c == '_' || c == '.'

/-- The name in front, and what follows it and the blanks behind it. -/
def readName (cs : List Char) : Option (String × List Char) :=
  if cs.head?.any startsName then
    some (String.ofList (cs.takeWhile continuesName),
      (cs.dropWhile continuesName).dropWhile isBlank)
  else none

/-- The name that a line sets, and the text of the value; `export` may stand before the name. -/
def readAssignment (cs : List Char) : Option (String × List Char) := do
  match ← readName cs with
  | (name, '=' :: value) => return (name, value.dropWhile isBlank)
  | ("export", rest) =>
    match ← readName rest with
    | (name, '=' :: value) => return (name, value.dropWhile isBlank)
    | _ => none
  | _ => none

/-- Reads lines into an environment, which also gives the values of variables in them. -/
def loadLines (environment : Variables) : List (List Char) → Variables
  | [] => environment
  | line :: lines =>
    let cs := trimChars line
    if cs.isEmpty || cs.head? == some '#' then loadLines environment lines
    else
      let resolve := fun (name : List Char) =>
        ((valueOf environment (String.ofList name)).getD "").toList
      let assignment := do
        let (name, text) ← readAssignment cs
        let value ←
          if text.head? == some '#' then some [] else readValue resolve (.text false) text
        return (name, String.ofList value)
      match assignment with
      | none => environment
      | some (name, value) =>
        if (valueOf environment name).isSome then loadLines environment lines
        else loadLines (environment ++ [(name, value)]) lines

/-- An environment with the variables of a file added. -/
def load (environment : Variables) (content : String) : Variables :=
  loadLines environment (logicalLines content)

end Dotenv
end LightningLottery
