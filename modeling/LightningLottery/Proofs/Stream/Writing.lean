/-
  Events as they are written, and read again.

  * `SentEvent`, `SentLine`, `Renders`: the lines of events, among comments, each with its own end.
  * `valuesOf_block`, `blocksOf_lines`: the fields of an event are read back, and each event is a
    block.
  * `framesAfter_blocks`: what the blocks of events say are the events.
  * `takeLines_bytes`: the bytes of lines are taken in line by line.
  * `Renders.said_eq`: without the comments, the lines are those of the events.
  * `feedAll_rendered`: whatever the pieces, the frames are the events, with the latest id.
-/
import Mathlib.Data.List.Basic
import LightningLottery.Proofs.Stream.Mark
import LightningLottery.Proofs.Stream.Meaning

namespace LightningLottery

open EventText
open FrameDecoder (lineFeed carriageReturn withoutReturn takeLines)

/-! ## Events as lines -/

/-- An event to be written. Without a name, it is one of the default name. -/
structure SentEvent where
  name : Option String
  data : String
  id : Option String

namespace SentEvent

/-- The names and values of its fields: one of data for each line of the data. -/
def fields (e : SentEvent) : List (String × List Char) :=
  e.id.toList.map (fun id => ("id", id.toList)) ++
    e.name.toList.map (fun name => ("event", name.toList)) ++
    (e.data.toList.splitOn '\n').map fun line => ("data", line)

/-- A field as a line. -/
def fieldLine (field : String × List Char) : Line := field.1.toList ++ ':' :: ' ' :: field.2

def block (e : SentEvent) : List Line := e.fields.map fieldLine

/-- The lines of an event, the last of which is empty. -/
def lines (e : SentEvent) : List Line := e.block ++ [[]]

/-- What the lines of a stream can carry: a line feed would end the line, a carriage return at its
    end would be dropped, and an id with a zero character would be none. -/
structure Sendable (e : SentEvent) : Prop where
  name : ∀ name ∈ e.name, name ≠ "" ∧ '\n' ∉ name.toList ∧ name.toList.getLast? ≠ some '\r'
  id : ∀ id ∈ e.id, '\n' ∉ id.toList ∧ '\x00' ∉ id.toList ∧ id.toList.getLast? ≠ some '\r'
  data : ∀ line ∈ e.data.toList.splitOn '\n', line.getLast? ≠ some '\r'

/-- The frame of an event behind which an id stands. -/
def frame (e : SentEvent) (id : Option String) : Frame := ⟨e.name.getD defaultEvent, e.data, id⟩

/-- The id of the latest event that has one. -/
def latestId (events : List SentEvent) : Option String := (events.filterMap SentEvent.id).getLast?

end SentEvent

/-- A line as it is written: its bytes, and whether a carriage return stands before its line
    feed. -/
structure SentLine where
  content : Bytes
  returned : Bool

namespace SentLine

/-- The bytes of a line before its line feed. -/
def body (l : SentLine) : Bytes := l.content ++ if l.returned then [carriageReturn] else []

def bytes (l : SentLine) : Bytes := l.body ++ [lineFeed]

/-- The line starts with a colon. -/
def IsComment (l : SentLine) : Prop := l.content.head? = some 0x3A

instance : DecidablePred IsComment :=
  fun l => inferInstanceAs (Decidable (l.content.head? = some 0x3A))

/-- The line as it is taken in. -/
def said (l : SentLine) : Line := Utf8.lossyChars (withoutReturn l.body)

end SentLine

/-- Lines that say events, with comments anywhere among them. -/
structure Renders (ls : List SentLine) (events : List SentEvent) : Prop where
  comments : ∀ l ∈ ls, l.IsComment → lineFeed ∉ l.content
  fields : (ls.filter fun l => ¬ l.IsComment).map SentLine.content =
    (events.flatMap SentEvent.lines).map fun line => utf8 (String.ofList line)

/-! ## What an event says -/

namespace SentEvent

theorem name_of_mem_fields {e : SentEvent} {field : String × List Char} (h : field ∈ e.fields) :
    field.1 = "id" ∨ field.1 = "event" ∨ field.1 = "data" := by
  simp only [fields, List.mem_append, List.mem_map] at h
  rcases h with (⟨_, _, rfl⟩ | ⟨_, _, rfl⟩) | ⟨_, _, rfl⟩
  · exact Or.inl rfl
  · exact Or.inr (Or.inl rfl)
  · exact Or.inr (Or.inr rfl)

theorem fieldLine_read {field : String × List Char}
    (h : field.1 = "id" ∨ field.1 = "event" ∨ field.1 = "data") :
    ¬ EventText.IsComment (fieldLine field) ∧ fieldName (fieldLine field) = field.1 ∧
      fieldValue (fieldLine field) = field.2 := by
  obtain ⟨name, value⟩ := field
  have hcolon : ':' ∉ name.toList := by
    rcases h with h | h | h <;> cases h <;> decide
  obtain ⟨htake, hdrop⟩ := takeWhile_ne_append hcolon (' ' :: value)
  refine ⟨?_, ?_, ?_⟩
  · rcases h with h | h | h <;> cases h <;> simp [EventText.IsComment, fieldLine]
  · rw [fieldName, fieldLine, htake, String.ofList_toList]
  · rw [fieldValue, fieldLine, hdrop]
    rfl

theorem valuesOf_map_fieldLine {fields : List (String × List Char)}
    (h : ∀ field ∈ fields, field.1 = "id" ∨ field.1 = "event" ∨ field.1 = "data") (name : String) :
    valuesOf name (fields.map fieldLine) = (fields.filter (·.1 = name)).map Prod.snd := by
  have hread := fun field (hf : field ∈ fields) => fieldLine_read (h field hf)
  have hkept : fields.filter ((fun line => decide (¬ EventText.IsComment line ∧
      fieldName line = name)) ∘ fieldLine) = fields.filter (·.1 = name) :=
    List.filter_congr fun field hf => by simp [hread field hf]
  rw [valuesOf, List.filter_map, List.map_map, hkept]
  exact List.map_congr_left fun field hf => (hread field (List.mem_filter.1 hf).1).2.2

/-- **`valuesOf` reads the fields of the block of an event**: id and name if it has them, and the
    lines of its data. -/
theorem valuesOf_block (e : SentEvent) :
    valuesOf "id" e.block = e.id.toList.map String.toList ∧
      valuesOf "event" e.block = e.name.toList.map String.toList ∧
      valuesOf "data" e.block = e.data.toList.splitOn '\n' := by
  have hblock := valuesOf_map_fieldLine fun field (h : field ∈ e.fields) => name_of_mem_fields h
  refine ⟨(hblock "id").trans ?_, (hblock "event").trans ?_, (hblock "data").trans ?_⟩ <;>
    simp [fields, List.filter_map, Function.comp_def, List.filter_true, List.filter_false]

theorem eventOf_block {e : SentEvent} (he : e.Sendable) :
    eventOf e.block = e.name.getD defaultEvent := by
  rw [eventOf, (valuesOf_block e).2.1]
  rcases hname : e.name with _ | name
  · rfl
  · simp only [Option.toList_some, List.map_cons, List.map_nil, List.getLast?_singleton,
      Option.getD_some]
    split
    · next h => cases h
    · next h =>
      exact absurd (String.toList_eq_nil_iff.1 (Option.some.inj h)) (he.name name hname).1
    · next h => rw [← Option.some.inj h, String.ofList_toList]

theorem dataOf_block (e : SentEvent) : dataOf e.block = some e.data := by
  rw [dataOf, (valuesOf_block e).2.2, if_neg (List.splitOn_ne_nil _ _), List.intercalate_splitOn,
    String.ofList_toList]

theorem ids_blocks (events : List SentEvent) :
    valuesOf "id" (events.flatMap block) = (events.filterMap SentEvent.id).map String.toList := by
  induction events with
  | nil => rfl
  | cons e events ih =>
    rw [List.flatMap_cons, valuesOf_append, ih, (valuesOf_block e).1]
    rcases hid : e.id with _ | id <;> simp [hid]

theorem lastId_blocks {events : List SentEvent} (he : ∀ e ∈ events, e.Sendable) :
    lastId (events.flatMap block) = latestId events := by
  have hkept : ∀ value ∈ valuesOf "id" (events.flatMap block), '\x00' ∉ value := by
    simp only [ids_blocks, List.forall_mem_map, List.mem_filterMap]
    rintro id ⟨e, hmem, hid⟩
    exact ((he e hmem).id id hid).2.1
  rw [lastId, List.filter_eq_self.2 (by simpa using hkept), ids_blocks, List.getLast?_map,
    Option.map_map, latestId]
  simp [Function.comp_def]

/-! ## What events say, one after the other -/

theorem blocksOf_lines (events : List SentEvent) :
    blocksOf (events.flatMap lines) = events.map block := by
  induction events with
  | nil => rfl
  | cons e events ih =>
    have hmem : [] ∉ e.block := by
      simp [block, fieldLine]
    have hlines : (e :: events).flatMap lines = e.block ++ [] :: events.flatMap lines := by
      rw [List.flatMap_cons, lines, List.append_assoc, List.singleton_append]
    rw [hlines, blocksOf, List.splitOn_append_cons_self_of_not_mem hmem,
      List.dropLast_cons_of_ne_nil (List.splitOn_ne_nil _ _), ← blocksOf, ih, List.map_cons]

/-- **`framesAfter` of the blocks of events gives the events**, each with the latest id. -/
theorem framesAfter_blocks {events : List SentEvent} (he : ∀ e ∈ events, e.Sendable) :
    framesAfter [] (events.map block) =
      events.mapIdx fun k e => e.frame (latestId (events.take (k + 1))) := by
  have hframe (k : Nat) (h : k < events.length) :
      frame? ((events.map block).take (k + 1)).flatten (events[k].block) =
        some (events[k].frame (latestId (events.take (k + 1)))) := by
    have hupto :
        ((events.map block).take (k + 1)).flatten = (events.take (k + 1)).flatMap block := by
      rw [← List.map_take, List.flatMap]
    rw [frame?, dataOf_block, eventOf_block (he _ (List.getElem_mem h)), hupto,
      lastId_blocks fun e hmem => he e (List.mem_of_mem_take hmem)]
    rfl
  have hsome : ((events.map block).mapIdx fun k b =>
      frame? ([] ++ ((events.map block).take (k + 1)).flatten) b) =
      (events.mapIdx fun k e => e.frame (latestId (events.take (k + 1)))).map some := by
    refine List.ext_getElem (by simp) fun k hk _ => ?_
    have hk : k < events.length := by simpa using hk
    simp only [List.getElem_mapIdx, List.getElem_map, List.nil_append, hframe k hk]
  rw [framesAfter, hsome, List.flatMap_map]
  exact List.flatMap_singleton' _

end SentEvent

/-! ## Lines as bytes -/

namespace SentLine

/-- A line is what it says, unless it ends with a carriage return itself. -/
theorem said_eq {l : SentLine} (h : (Utf8.lossyChars l.content).getLast? ≠ some '\r') :
    l.said = Utf8.lossyChars l.content := by
  rw [said, body]
  split
  · rw [withoutReturn, List.getLast?_concat, if_pos rfl, List.dropLast_concat]
  · rw [List.append_nil, lossyChars_withoutReturn, dropReturn, if_neg h]

theorem isComment_dropReturn {line : Line} (h : EventText.IsComment line) :
    EventText.IsComment (dropReturn line) := by
  obtain ⟨text, rfl⟩ := List.head?_eq_some_iff.1 h
  rw [dropReturn]
  split
  · next hreturn =>
    rcases text with _ | ⟨c, text⟩
    · cases hreturn
    · rfl
  · exact h

theorem isComment_said {l : SentLine} (h : l.IsComment) : EventText.IsComment l.said := by
  obtain ⟨text, htext⟩ := List.head?_eq_some_iff.1 h
  rw [said, lossyChars_withoutReturn, body, htext, List.cons_append,
    Utf8.lossyChars_ascii (by decide)]
  exact isComment_dropReturn rfl

theorem lineFeed_notMem_body {l : SentLine} (h : lineFeed ∉ l.content) : lineFeed ∉ l.body := by
  rw [body, List.mem_append, not_or]
  refine ⟨h, ?_⟩
  split <;> decide

theorem takeLines_bytes {ls : List SentLine} (h : ∀ l ∈ ls, lineFeed ∉ l.content) (block : Block) :
    (takeLines block (ls.flatMap bytes)).2.1 = (block.addLines (ls.map said)).2 := by
  induction ls generalizing block with
  | nil =>
    rw [List.flatMap_nil, FrameDecoder.takeLines_unended _ List.not_mem_nil]
    rfl
  | cons l ls ih =>
    obtain ⟨hl, hls⟩ := List.forall_mem_cons.1 h
    rw [List.flatMap_cons, bytes, List.append_assoc, List.singleton_append,
      FrameDecoder.takeLines_line _ (lineFeed_notMem_body hl), List.map_cons, Block.addLines,
      ← ih hls]
    rfl

theorem exists_suffix {ls : List SentLine} (h : ∀ l ∈ ls, lineFeed ∉ l.content)
    {ended rest : Bytes} (he : FrameDecoder.ShortLines ended)
    (hb : ls.flatMap bytes = ended ++ rest) :
    ∃ later, later <:+ ls ∧ rest = later.flatMap bytes := by
  induction he generalizing ls with
  | nil => exact ⟨ls, List.suffix_rfl, hb.symm⟩
  | @line first more _ one _ ih =>
    rcases ls with _ | ⟨l, ls⟩
    · simp at hb
    · obtain ⟨hl, hls⟩ := List.forall_mem_cons.1 h
      simp only [List.flatMap_cons, bytes, List.append_assoc, List.cons_append,
        List.nil_append] at hb
      have hmore := congrArg (List.dropWhile (· != lineFeed)) hb
      rw [(takeWhile_ne_append (lineFeed_notMem_body hl) _).2,
        (takeWhile_ne_append one _).2] at hmore
      obtain ⟨later, hlater, hrest⟩ := ih hls (List.cons.inj hmore).2
      exact ⟨later, hlater.trans (List.suffix_cons l ls), hrest⟩

/-- Lines that do not start with the first byte of a mark have none in front. -/
theorem unmark_bytes {ls : List SentLine} (h : ∀ l ∈ ls, l.content.head? ≠ some 0xEF) :
    FrameDecoder.unmark (ls.flatMap bytes) = ls.flatMap bytes := by
  have hhead : (ls.flatMap bytes).head? ≠ some 0xEF := by
    rcases ls with _ | ⟨l, ls⟩
    · simp
    · have hl := h l List.mem_cons_self
      rw [List.flatMap_cons, bytes, body]
      rcases hcontent : l.content with _ | ⟨b, content⟩
      · cases l.returned <;> simp [lineFeed, carriageReturn]
      · rw [hcontent] at hl
        simpa using hl
  rw [FrameDecoder.unmark, if_neg]
  intro hmark
  obtain ⟨rest, hrest⟩ := List.isPrefixOf_iff_prefix.1 hmark
  exact hhead (by rw [← hrest]; rfl)

end SentLine

/-- Comment lines make no difference to `addLines`. -/
theorem Block.addLines_filter (block : Block) (lines : List Line) :
    block.addLines (lines.filter fun line => ¬ IsComment line) = block.addLines lines := by
  induction lines generalizing block with
  | nil => rfl
  | cons line lines ih =>
    by_cases hc : IsComment line
    · obtain ⟨text, rfl⟩ := List.head?_eq_some_iff.1 hc
      rw [List.filter_cons_of_neg (by simp [hc]), ih]
      rfl
    · rw [List.filter_cons_of_pos (by simp [hc]), Block.addLines, Block.addLines, ih]

/-! ## Lines of events -/

/-- What holds of the lines of events that can be sent. -/
structure EventLine (line : Line) : Prop where
  unended : '\n' ∉ line
  unreturned : line.getLast? ≠ some '\r'
  said : ¬ IsComment line
  unmarked : (utf8 (String.ofList line)).head? ≠ some 0xEF

theorem SentEvent.Sendable.value {e : SentEvent} (he : e.Sendable) {field : String × List Char}
    (h : field ∈ e.fields) : '\n' ∉ field.2 ∧ field.2.getLast? ≠ some '\r' := by
  simp only [fields, List.mem_append, List.mem_map, Option.mem_toList] at h
  rcases h with (⟨id, hid, rfl⟩ | ⟨name, hname, rfl⟩) | ⟨line, hline, rfl⟩
  · obtain ⟨hfeed, -, hreturn⟩ := he.id id hid
    exact ⟨hfeed, hreturn⟩
  · exact (he.name name hname).2
  · exact ⟨notMem_of_mem_splitOn hline, he.data line hline⟩

theorem SentEvent.Sendable.eventLine {e : SentEvent} (he : e.Sendable) {line : Line}
    (h : line ∈ e.lines) : EventLine line := by
  rw [lines, block, List.mem_append, List.mem_map, List.mem_singleton] at h
  rcases h with ⟨field, hfield, rfl⟩ | rfl
  · obtain ⟨hfeed, hreturn⟩ := he.value hfield
    have hname := name_of_mem_fields hfield
    refine ⟨?_, ?_, (fieldLine_read hname).1, ?_⟩
    · rcases hname with hname | hname | hname <;> simp [fieldLine, hname, hfeed]
    · obtain ⟨name, value⟩ := field
      rw [fieldLine, List.getLast?_append_cons, List.getLast?_cons_cons]
      rcases value with _ | ⟨c, value⟩
      · simp
      · rwa [List.getLast?_cons_cons]
    · rcases hname with hname | hname | hname <;> simp [fieldLine, hname, utf8, Utf8.encode_ascii]
  · exact ⟨by simp, by simp, by simp [IsComment], by decide⟩

namespace Renders

variable {ls : List SentLine} {events : List SentEvent}

/-- A line that is no comment is a line of one of the events. -/
theorem exists_line (h : Renders ls events) (he : ∀ e ∈ events, e.Sendable) {l : SentLine}
    (hl : l ∈ ls) (hc : ¬ l.IsComment) :
    ∃ line, EventLine line ∧ l.content = utf8 (String.ofList line) ∧ l.said = line := by
  have hmem : l.content ∈ (ls.filter fun l => ¬ l.IsComment).map SentLine.content :=
    List.mem_map_of_mem (List.mem_filter.2 ⟨hl, by simpa using hc⟩)
  rw [h.fields] at hmem
  obtain ⟨line, hline, hcontent⟩ := List.mem_map.1 hmem
  obtain ⟨e, hmem, hline⟩ := List.mem_flatMap.1 hline
  have hevent := (he e hmem).eventLine hline
  have hread : Utf8.lossyChars l.content = line := by rw [← hcontent, Utf8.lossyChars_utf8]
  exact ⟨line, hevent, hcontent.symm, by rw [SentLine.said_eq (hread ▸ hevent.unreturned), hread]⟩

theorem lineFeed_notMem (h : Renders ls events) (he : ∀ e ∈ events, e.Sendable) :
    ∀ l ∈ ls, lineFeed ∉ l.content := by
  intro l hl
  by_cases hc : l.IsComment
  · exact h.comments l hl hc
  · obtain ⟨line, hevent, hcontent, -⟩ := h.exists_line he hl hc
    rw [hcontent]
    intro hmem
    have hline := (Utf8.mem_lossyChars_iff (show '\n'.toNat < 128 by decide)).2 hmem
    rw [Utf8.lossyChars_utf8] at hline
    exact hevent.unended hline

theorem head_ne (h : Renders ls events) (he : ∀ e ∈ events, e.Sendable) :
    ∀ l ∈ ls, l.content.head? ≠ some 0xEF := by
  intro l hl
  by_cases hc : l.IsComment
  · rw [show l.content.head? = _ from hc]
    decide
  · obtain ⟨line, hevent, hcontent, -⟩ := h.exists_line he hl hc
    rw [hcontent]
    exact hevent.unmarked

/-- **Without the comments, the lines are those of the events.** -/
theorem said_eq (h : Renders ls events) (he : ∀ e ∈ events, e.Sendable) :
    (ls.map SentLine.said).filter (fun line => ¬ IsComment line) =
      events.flatMap SentEvent.lines := by
  have hkept : ls.filter ((fun line => decide (¬ IsComment line)) ∘ SentLine.said) =
      ls.filter fun l => ¬ l.IsComment := by
    refine List.filter_congr fun l hl => decide_eq_decide.2 (not_congr ?_)
    refine ⟨fun hsaid => ?_, SentLine.isComment_said⟩
    by_contra hc
    obtain ⟨line, hevent, -, rfl⟩ := h.exists_line he hl hc
    exact hevent.said hsaid
  have hread : (ls.filter fun l => ¬ l.IsComment).map SentLine.said =
      (ls.filter fun l => ¬ l.IsComment).map (Utf8.lossyChars ∘ SentLine.content) := by
    refine List.map_congr_left fun l hl => ?_
    obtain ⟨hl, hc⟩ := List.mem_filter.1 hl
    obtain ⟨line, -, hcontent, rfl⟩ := h.exists_line he hl (by simpa using hc)
    rw [Function.comp_apply, hcontent, Utf8.lossyChars_utf8]
  rw [List.filter_map, hkept, hread, ← List.map_map, h.fields, List.map_map]
  simp [Function.comp_def, Utf8.lossyChars_utf8]

end Renders

open FrameDecoder in
/-- **Decoding rendered events gives the events**, with any comments, line endings and cuts: the
    frames are those of the events in their order, each with the latest id. -/
theorem feedAll_rendered {events : List SentEvent} {ls : List SentLine} {chunks : List Bytes}
    (he : ∀ e ∈ events, e.Sendable) (hr : Renders ls events)
    (hc : chunks.flatten = ls.flatMap SentLine.bytes) :
    (initial.feedAll chunks).2.flatten =
      events.mapIdx fun k e => e.frame (SentEvent.latestId (events.take (k + 1))) := by
  obtain ⟨ended, rest, r⟩ := exists_readsAs undecided_nil chunks
  have hbytes : ls.flatMap SentLine.bytes = ended ++ rest := by
    rw [← hc, ← r.bytes, List.nil_append]
  -- the decoder looks for the mark in front of one of the lines, and none starts with it
  have hunmarked : unmark rest = rest := by
    obtain ⟨later, hlater, rfl⟩ := SentLine.exists_suffix (hr.lineFeed_notMem he) r.short hbytes
    exact SentLine.unmark_bytes fun l hl => hr.head_ne he l (hlater.mem hl)
  calc (initial.feedAll chunks).2.flatten
      = (plain.feed rest).2 := by
        rw [← hunmarked, ← feed_initial]
        exact r.frames
    _ = (takeLines Block.empty (ls.flatMap SentLine.bytes)).2.1 := by
        rw [hbytes, ← feed_plain_shortLines r.short, feed_plain]
    _ = (Block.empty.addLines (events.flatMap SentEvent.lines)).2 := by
        rw [SentLine.takeLines_bytes (hr.lineFeed_notMem he), ← Block.addLines_filter,
          hr.said_eq he]
    _ = framesAfter [] (events.map SentEvent.block) := by
        rw [← SentEvent.blocksOf_lines]
        exact addLines_blockOf List.not_mem_nil [] _
    _ = _ := SentEvent.framesAfter_blocks he

/-- An event with an empty line, a leading space and a character beyond ASCII in its data, and one
    that is empty. -/
def twoEvents : List SentEvent :=
  [⟨some "tick", "a:\n\n \u00e9", some "7"⟩, ⟨none, "", none⟩]

/-- Their lines, with both line ends and two comments. -/
def twoEventsLines : List SentLine :=
  [⟨utf8 ": on", true⟩, ⟨utf8 "id: 7", true⟩, ⟨utf8 "event: tick", false⟩,
    ⟨utf8 "data: a:", true⟩, ⟨utf8 "data: ", false⟩, ⟨[0x3A, 0xFF], false⟩,
    ⟨utf8 "data:  \u00e9", true⟩, ⟨[], true⟩, ⟨utf8 "data: ", true⟩, ⟨[], false⟩]

/-- Two events, in pieces of one byte. -/
theorem feedAll_rendered_two :
    (∀ e ∈ twoEvents, e.Sendable) ∧ Renders twoEventsLines twoEvents ∧
      (FrameDecoder.initial.feedAll
        ((twoEventsLines.flatMap SentLine.bytes).map fun b => [b])).2.flatten =
        [⟨"tick", "a:\n\n \u00e9", some "7"⟩, ⟨"message", "", some "7"⟩] := by
  have hsendable : ∀ e ∈ twoEvents, e.Sendable := by
    intro e he
    rcases List.mem_pair.1 he with rfl | rfl
    · exact ⟨by decide +kernel, by decide +kernel, by decide +kernel⟩
    · exact ⟨by decide +kernel, by decide +kernel, by decide +kernel⟩
  have hrenders : Renders twoEventsLines twoEvents := ⟨by decide +kernel, by decide +kernel⟩
  refine ⟨hsendable, hrenders, ?_⟩
  rw [feedAll_rendered hsendable hrenders (by simp [← List.flatMap_def])]
  decide +kernel

end LightningLottery
