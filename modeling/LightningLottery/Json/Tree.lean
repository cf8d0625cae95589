/-
  JSON text as a tree that keeps its faults where they stand.

  Whether a fault matters depends on who reads: a value that nobody asks for may hold a number that
  is too large, and a mismatch early in the text counts before a fault that comes later. So reading
  has two steps: `Json.Node.parse` finds the tree, faults included, and a reader walks it from left
  to right and stops at the first problem.

  * `Json.Node`: the tree.
  * `Json.Node.skipFault?`: the first problem for one who asks for nothing.
  * `Json.Node.value`: the value of a tree, for one who asks for everything.
  * `Json.parse`: the value of a text.
-/
import LightningLottery.Json.Literal

namespace LightningLottery.Json

/-- A JSON text as a tree. A fault that ends the text is a `broken` node, or the `stop` of a list or
    an object; the other faults stand in leaves and keys, and matter to those who ask for them. -/
inductive Node where
  | null
  | flag (value : Bool)
  | number (value : Except Fault JsonNumber)
  | text (value : Except Fault String)
  | list (items : List Node) (stop : Option Fault)
  | object (members : List (Except Fault String × Node)) (stop : Option Fault)
  /-- No value: the problem for one who asks for it, and for one who does not. -/
  | broken (reading skipping : Fault)

namespace Node

/-- A leaf: what it is if it can be passed over, and how it is read. -/
def leaf (skipped : Except Fault Bytes) (value : Except Fault α) (make : Except Fault α → Node) :
    Node × Bytes :=
  match skipped, value with
  | .ok rest, value => (make value, rest)
  | .error skipping, .error reading => (.broken reading skipping, [])
  | .error skipping, .ok _ => (.broken skipping skipping, [])

/-- A word such as `null`, after its first letter. -/
def word (letters : List Char) (node : Node) (bs : Bytes) : Node × Bytes :=
  match skipWord letters bs with
  | .ok rest => (node, rest)
  | .error fault => (.broken fault fault, [])

mutual

/-- The tree at the front, and what follows it; nothing follows one that ends the text. -/
def ofBytes : Nat → Bytes → Node × Bytes
  | 0, _ => (.broken .unfinished .unfinished, [])
  | fuel + 1, bs =>
    match skipBlanks bs with
    | [] => (.broken .unfinished .unfinished, [])
    | b :: rest =>
      if b == byte 'n' then word ['u', 'l', 'l'] .null rest
      else if b == byte 't' then word ['r', 'u', 'e'] (.flag true) rest
      else if b == byte 'f' then word ['a', 'l', 's', 'e'] (.flag false) rest
      else if b == byte '-' || isDigitByte b then
        leaf (skipNumber (b :: rest)) (readNumber (b :: rest)) .number
      else if b == byte '"' then leaf (skipText rest) (readText rest) .text
      else if b == byte '[' then
        match skipBlanks rest with
        | [] => (.list [] (some .unfinished), [])
        | c :: after =>
          if c == byte ']' then (.list [] none, after)
          else
            let (items, stop, left) := itemsOfBytes fuel (c :: after)
            (.list items stop, left)
      else if b == byte '\x7b' then
        match skipBlanks rest with
        | [] => (.object [] (some .unfinished), [])
        | c :: after =>
          if c == byte '\x7d' then (.object [] none, after)
          else
            let (members, stop, left) := membersOfBytes fuel (c :: after)
            (.object members stop, left)
      else (.broken .malformed .malformed, [])

/-- The items of a list from the one at the front, what ends the list too early, and what follows
    it. -/
def itemsOfBytes : Nat → Bytes → List Node × Option Fault × Bytes
  | 0, _ => ([], some .unfinished, [])
  | fuel + 1, bs =>
    let (item, rest) := ofBytes fuel bs
    match skipBlanks rest with
    | [] => ([item], some .unfinished, [])
    | b :: after =>
      if b == byte ',' then
        let (items, stop, left) := itemsOfBytes fuel after
        (item :: items, stop, left)
      else if b == byte ']' then ([item], none, after)
      else ([item], some .malformed, [])

/-- The members of an object from the one at the front, what ends the object too early, and what
    follows it. -/
def membersOfBytes : Nat → Bytes → List (Except Fault String × Node) × Option Fault × Bytes
  | 0, _ => ([], some .unfinished, [])
  | fuel + 1, bs =>
    match skipBlanks bs with
    | [] => ([], some .unfinished, [])
    | b :: inKey =>
      if b != byte '"' then ([], some .malformed, [])
      else
        let (value, rest) := match skipText inKey with
          | .error fault => (Node.broken fault fault, [])
          | .ok afterKey =>
            match skipBlanks afterKey with
            | [] => (.broken .unfinished .unfinished, [])
            | c :: afterColon =>
              if c == byte ':' then ofBytes fuel afterColon
              else (.broken .malformed .malformed, [])
        match skipBlanks rest with
        | [] => ([(readText inKey, value)], some .unfinished, [])
        | c :: after =>
          if c == byte ',' then
            let (members, stop, left) := membersOfBytes fuel after
            ((readText inKey, value) :: members, stop, left)
          else if c == byte '\x7d' then ([(readText inKey, value)], none, after)
          else ([(readText inKey, value)], some .malformed, [])

end

/-- The tree of a text, and whether anything but blanks follows it. -/
def parse (bs : Bytes) : Node × Bool :=
  let (node, rest) := ofBytes (2 * bs.length + 2) bs
  (node, !(skipBlanks rest).isEmpty)

mutual

/-- The first problem for one who asks for nothing in a tree. -/
def skipFault? : Node → Option Fault
  | .broken _ skipping => some skipping
  | .list items stop => (skipFaultOfItems? items).or stop
  | .object members stop => (skipFaultOfMembers? members).or stop
  | .null | .flag _ | .number _ | .text _ => none

/-- The first such problem in a list of trees. -/
def skipFaultOfItems? : List Node → Option Fault
  | [] => none
  | item :: items => item.skipFault?.or (skipFaultOfItems? items)

/-- The first such problem in the values of members. -/
def skipFaultOfMembers? : List (Except Fault String × Node) → Option Fault
  | [] => none
  | (_, value) :: members => value.skipFault?.or (skipFaultOfMembers? members)

end

/-- The problem of one who asks for something else than what a tree is. -/
def mismatch : Node → Fault
  | .broken reading _ => reading
  | .number (.error fault) => fault
  | .text (.error fault) => fault
  | _ => .misfit

/-- Puts a member into an object; a key that is there already gets the new value. -/
def putMember (key : String) (value : Json) (members : List (String × Json)) :
    List (String × Json) :=
  if members.any (·.1 == key) then
    members.map fun member => if member.1 == key then (key, value) else member
  else members ++ [(key, value)]

mutual

/-- The value of a tree that is nested at most `depth` levels deep. -/
def value : Nat → Node → Except Fault Json
  | _, .null => .ok .null
  | _, .flag b => .ok (.flag b)
  | _, .number n => n.map .number
  | _, .text s => s.map .text
  | _, .broken reading _ => .error reading
  | 0, .list _ _ => .error .malformed
  | depth + 1, .list items stop => do
    let values ← valuesOfItems depth items
    match stop with
    | some fault => .error fault
    | none => .ok (.list values)
  | 0, .object _ _ => .error .malformed
  | depth + 1, .object members stop => do
    let values ← valuesOfMembers depth [] members
    match stop with
    | some fault => .error fault
    | none => .ok (.object values)

/-- The values of a list of trees. -/
def valuesOfItems : Nat → List Node → Except Fault (List Json)
  | _, [] => .ok []
  | depth, item :: items => do
    let first ← value depth item
    let others ← valuesOfItems depth items
    return first :: others

/-- The members of an object, after those found before; of several with one key the last counts. -/
def valuesOfMembers :
    Nat → List (String × Json) → List (Except Fault String × Node) →
      Except Fault (List (String × Json))
  | _, found, [] => .ok found
  | depth, found, (key, node) :: members => do
    let key ← key
    let v ← value depth node
    valuesOfMembers depth (putMember key v found) members

end

mutual

/-- The tree of a value. -/
def ofValue : Json → Node
  | .null => .null
  | .flag b => .flag b
  | .number n => .number (.ok n)
  | .text s => .text (.ok s)
  | .list items => .list (ofItems items) none
  | .object members => .object (ofMembers members) none

/-- The trees of a list of values. -/
def ofItems : List Json → List Node
  | [] => []
  | item :: items => ofValue item :: ofItems items

/-- The trees of members. -/
def ofMembers : List (String × Json) → List (Except Fault String × Node)
  | [] => []
  | (key, v) :: members => (.ok key, ofValue v) :: ofMembers members

end

end Node

/-- The deepest nesting of a value that is read whole. -/
def maxDepth : Nat := 127

/-- The value of a text. -/
def parse (bs : Bytes) : Except Fault Json := do
  let (node, more) := Node.parse bs
  let v ← node.value maxDepth
  if more then .error .malformed else .ok v

end LightningLottery.Json
