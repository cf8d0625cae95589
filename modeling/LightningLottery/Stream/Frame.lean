/-
  Server-sent events: a byte stream of lines, cut into frames by empty lines.

  * `Frame`: an event as it is handed on: its name, its data, and the last id seen so far.
  * `FrameDecoder`: what is left over between two pieces of input.
  * `FrameDecoder.feed`: takes one more piece of input and gives the frames it completes.
-/
import LightningLottery.Text.Split
import LightningLottery.Text.Utf8

namespace LightningLottery

/-- An event as it is handed on. -/
structure Frame where
  event : String
  data : String
  id : Option String
  deriving DecidableEq, Repr

/-- The name of an event that gives none. -/
def defaultEvent : String := "message"

/-- What the lines since the last empty one have said, and the last id of the stream. -/
structure Block where
  event : Option String
  data : Option String
  lastId : Option String
  deriving DecidableEq, Repr

namespace Block

/-- Before the first line. -/
def empty : Block := ⟨none, none, none⟩

/-- The field name and the value of a line: what stands before and after the first colon, less one
    space after it; a line without a colon is a name with an empty value. -/
def fieldOf (line : List Char) : String × String :=
  match splitFirst? ':' line with
  | none => (String.ofList line, "")
  | some (name, ' ' :: value) => (String.ofList name, String.ofList value)
  | some (name, value) => (String.ofList name, String.ofList value)

/-- One more line of data. -/
def addData (block : Block) (value : String) : Block :=
  match block.data with
  | none => { block with data := some value }
  | some data => { block with data := some (data ++ "\n" ++ value) }

/-- Takes in a field. Unknown names, and ids with a zero character, are passed over. -/
def addField (block : Block) (name value : String) : Block :=
  match name with
  | "event" => { block with event := some value }
  | "data" => block.addData value
  | "id" => if value.toList.any (·.toNat == 0) then block else { block with lastId := some value }
  | _ => block

/-- The frame of a block, if it has data. -/
def frame? (block : Block) : Option Frame :=
  block.data.map fun data =>
    { event := match block.event with
        | some event => if event.isEmpty then defaultEvent else event
        | none => defaultEvent
      data := data
      id := block.lastId }

/-- Takes in a line: an empty one ends the block, of which only the id stays; one that starts with
    a colon is a comment. -/
def addLine (block : Block) (line : List Char) : Block × Option Frame :=
  match line with
  | [] => ({ Block.empty with lastId := block.lastId }, block.frame?)
  | ':' :: _ => (block, none)
  | line => let (name, value) := fieldOf line; (block.addField name value, none)

end Block

/-- What is left over between two pieces of input. -/
structure FrameDecoder where
  /-- The bytes after the last line end. -/
  buffer : Bytes
  block : Block
  /-- Whether the place for a byte order mark is past. -/
  started : Bool
  deriving DecidableEq, Repr

namespace FrameDecoder

/-- Before any input. -/
def initial : FrameDecoder := ⟨[], Block.empty, false⟩

/-- The byte order mark, which is dropped at the start. -/
def byteOrderMark : Bytes := [0xEF, 0xBB, 0xBF]

/-- The line feed, which ends a line. -/
def lineFeed : UInt8 := 0x0A

/-- The carriage return, which is dropped before a line feed. -/
def carriageReturn : UInt8 := 0x0D

/-- A line without one carriage return at its end. -/
def withoutReturn (line : Bytes) : Bytes :=
  if line.getLast? = some carriageReturn then line.dropLast else line

/-- Takes in the complete lines of a byte sequence; gives the block that is open after them, the
    frames, and the bytes of the line that is not ended. -/
def takeLines (block : Block) (bs : Bytes) : Block × List Frame × Bytes :=
  match h : bs.dropWhile (· != lineFeed) with
  | [] => (block, [], bs)
  | _ :: rest =>
    have : rest.length < bs.length := by
      have := (List.dropWhile_sublist (l := bs) (· != lineFeed)).length_le
      rw [h] at this
      exact this
    let line := Utf8.lossyChars (withoutReturn (bs.takeWhile (· != lineFeed)))
    let (next, frame?) := block.addLine line
    let (last, frames, left) := takeLines next rest
    (last, frame?.toList ++ frames, left)
termination_by bs.length

/-- Drops a byte order mark once three bytes are there to tell. -/
def start (decoder : FrameDecoder) : FrameDecoder :=
  if !decoder.started && 3 ≤ decoder.buffer.length then
    { decoder with
      buffer := if byteOrderMark.isPrefixOf decoder.buffer then decoder.buffer.drop 3
        else decoder.buffer
      started := true }
  else decoder

/-- Takes one more piece of input and gives the frames it completes. -/
def feed (decoder : FrameDecoder) (chunk : Bytes) : FrameDecoder × List Frame :=
  let ready := start { decoder with buffer := decoder.buffer ++ chunk }
  let (block, frames, left) := takeLines ready.block ready.buffer
  ({ ready with block := block, buffer := left }, frames)

/-- Takes pieces of input one by one and gives the frames that each completes. -/
def feedAll (decoder : FrameDecoder) : List Bytes → FrameDecoder × List (List Frame)
  | [] => (decoder, [])
  | chunk :: chunks =>
    let (next, frames) := decoder.feed chunk
    let (last, later) := next.feedAll chunks
    (last, frames :: later)

end FrameDecoder

end LightningLottery
