/-
  Records as JSON.

  * `Shape`: what a value must look like; `Item`: a value that does.
  * `Shape.read`: the item in a tree, or the first problem from left to right. A record is an
    object with the fields as members, in any order and among others, or the list of the fields.
  * `Shape.write`: the JSON value of an item.
  * `Wire`: a type that travels as JSON; `Wire.decode` and `Wire.encode` are its texts.
-/
import LightningLottery.Json.Tree

namespace LightningLottery

/-- A value of some shape. -/
inductive Item where
  | text (value : String)
  | flag (value : Bool)
  | whole (value : Int)
  /-- Nothing, where a field may hold nothing. -/
  | absent
  | list (items : List Item)
  /-- The fields of a record, in their order. -/
  | record (fields : List Item)
  deriving Repr

namespace Item

/-- The text of a text. -/
def toText : Item → String
  | .text s => s
  | _ => ""

/-- The truth value of a flag. -/
def toFlag : Item → Bool
  | .flag b => b
  | _ => false

/-- The number of a whole number. -/
def toInt : Item → Int
  | .whole n => n
  | _ => 0

/-- The items of a list. -/
def toList : Item → List Item
  | .list items => items
  | _ => []

/-- The field of a record with the given place. -/
def field (i : Nat) : Item → Item
  | .record items => items.getD i .absent
  | _ => .absent

/-- What a field holds that may hold nothing. -/
def toOption (f : Item → α) : Item → Option α
  | .absent => none
  | item => some (f item)

/-- The item of a field that may hold nothing. -/
def ofOption (f : α → Item) : Option α → Item
  | none => .absent
  | some a => f a

end Item

/-- What a field is called, and how it deals with having no value. -/
structure FieldRule where
  name : String
  /-- Whether the field may hold nothing, written `null`. -/
  nullable : Bool
  /-- Whether a field that holds nothing is left out in writing. -/
  omitted : Bool
  /-- What the field holds when it is missing; nothing here means that it must be there. -/
  default : Option Item

namespace FieldRule

/-- A field that must be there. -/
def required (name : String) : FieldRule := ⟨name, false, false, none⟩

/-- A field that has a default. -/
def defaulted (name : String) (default : Item) : FieldRule := ⟨name, false, false, some default⟩

/-- A field that holds nothing when it is missing. -/
def optional (name : String) : FieldRule := ⟨name, true, false, some .absent⟩

/-- The same, left out in writing while it holds nothing. -/
def omissible (name : String) : FieldRule := ⟨name, true, true, some .absent⟩

end FieldRule

/-- What a value must look like. -/
inductive Shape where
  | text
  | flag
  | whole (min max : Int)
  | list (element : Shape)
  | record (fields : List (FieldRule × Shape))

namespace Shape

open Json (Fault Node)

/-- The whole numbers of 8 bits. -/
def word8 : Shape := .whole 0 255

/-- The whole numbers of 32 bits. -/
def word32 : Shape := .whole 0 4294967295

/-- The whole numbers of 64 bits. -/
def word64 : Shape := .whole 0 18446744073709551615

/-- The signed whole numbers of 64 bits. -/
def signed64 : Shape := .whole (-9223372036854775808) 9223372036854775807

/-- The items of fields that are missing. -/
def defaults : List (FieldRule × Shape) → Except Fault (List Item)
  | [] => .ok []
  | (rule, _) :: fields =>
    match rule.default with
    | none => .error .misfit
    | some item => (defaults fields).map (item :: ·)

/-- The items of the fields of an object, the default where none was found. -/
def fill : List (FieldRule × Shape) → List (Option Item) → Except Fault (List Item)
  | (_, _) :: fields, some item :: found => (fill fields found).map (item :: ·)
  | (rule, _) :: fields, _ :: found =>
    match rule.default with
    | none => .error .misfit
    | some item => (fill fields found).map (item :: ·)
  | fields, [] => defaults fields
  | [], _ => .ok []

/-- The place of the field with a name, and the field. -/
def fieldNamed? (name : String) : List (FieldRule × Shape) → Option (Nat × FieldRule × Shape)
  | [] => none
  | (rule, shape) :: fields =>
    if rule.name = name then some (0, rule, shape)
    else (fieldNamed? name fields).map fun (i, field) => (i + 1, field)

/-- The item in the tree of a field, which may be nothing where the field may hold nothing. -/
def orAbsent (rule : FieldRule) (node : Node) (item : Except Fault Item) : Except Fault Item :=
  match node, rule.nullable with
  | .null, true => .ok .absent
  | _, _ => item

mutual

/-- The item in a tree. -/
def read : Node → Shape → Except Fault Item
  | .text (.ok s), .text => .ok (.text s)
  | .flag b, .flag => .ok (.flag b)
  | .number (.ok (.whole n)), .whole min max =>
    if min ≤ n && n ≤ max then .ok (.whole n) else .error .misfit
  | .list nodes stop, .list element => do
    let items ← readItems nodes element
    match stop with
    | some fault => .error fault
    | none => .ok (.list items)
  | .list nodes stop, .record fields => (readFields nodes stop fields).map .record
  | .object members stop, .record fields => do
    let found ← readMembers members fields (fields.map fun _ => none)
    match stop with
    | some fault => .error fault
    | none => (fill fields found).map .record
  | node, _ => .error node.mismatch

/-- The items of a list. -/
def readItems : List Node → Shape → Except Fault (List Item)
  | [], _ => .ok []
  | node :: nodes, element => do
    let first ← read node element
    let others ← readItems nodes element
    return first :: others

/-- The fields of a record that is written as a list; those missing at the end have their default,
    and there must be no more than the fields. -/
def readFields : List Node → Option Fault → List (FieldRule × Shape) → Except Fault (List Item)
  | _ :: _, _, [] => .error .malformed
  | [], some fault, _ => .error fault
  | [], none, fields => defaults fields
  | node :: nodes, stop, (rule, shape) :: fields => do
    let first ← orAbsent rule node (read node shape)
    let others ← readFields nodes stop fields
    return first :: others

/-- The fields found in the members of an object, after those found before. No field may come
    twice; members that are no fields are passed over. -/
def readMembers : List (Except Fault String × Node) → List (FieldRule × Shape) →
    List (Option Item) → Except Fault (List (Option Item))
  | [], _, found => .ok found
  | (key, node) :: members, fields, found => do
    let name ← key
    match fieldNamed? name fields with
    | none =>
      match node.skipFault? with
      | some fault => .error fault
      | none => readMembers members fields found
    | some (i, rule, shape) =>
      if ((found[i]?).getD none).isSome then .error .misfit
      else
        let item ← orAbsent rule node (read node shape)
        readMembers members fields (found.set i (some item))

end

mutual

/-- The JSON value of an item. -/
def write : Item → Shape → Json
  | .text s, _ => .text s
  | .flag b, _ => .flag b
  | .whole n, _ => .number (.whole n)
  | .absent, _ => .null
  | .list items, .list element => .list (writeItems items element)
  | .record items, .record fields => .object (writeFields items fields)
  | .list _, _ => .null
  | .record _, _ => .null

/-- The JSON values of the items of a list. -/
def writeItems : List Item → Shape → List Json
  | [], _ => []
  | item :: items, element => write item element :: writeItems items element

/-- The members of a record. -/
def writeFields : List Item → List (FieldRule × Shape) → List (String × Json)
  | [], _ => []
  | _, [] => []
  | .absent :: items, (rule, _) :: fields =>
    if rule.omitted then writeFields items fields
    else (rule.name, .null) :: writeFields items fields
  | item :: items, (rule, shape) :: fields =>
    (rule.name, write item shape) :: writeFields items fields

end

end Shape

/-- A type whose values travel as JSON. -/
class Wire (α : Type) where
  shape : Shape
  toItem : α → Item
  ofItem : Item → α

namespace Wire

/-- The value in a text. -/
def decode [Wire α] (bs : Bytes) : Except Json.Fault α := do
  let (node, more) := Json.Node.parse bs
  let item ← Shape.read node (shape α)
  if more then .error .malformed else .ok (ofItem item)

/-- The value in a JSON value. -/
def ofJson [Wire α] (v : Json) : Except Json.Fault α :=
  (Shape.read (Json.Node.ofValue v) (shape α)).map ofItem

/-- The JSON value of a value. -/
def toJson [Wire α] (a : α) : Json := Shape.write (toItem a) (shape α)

/-- The compact text of a value. -/
def encode [Wire α] (a : α) : String := (toJson a).compact

end Wire

end LightningLottery
