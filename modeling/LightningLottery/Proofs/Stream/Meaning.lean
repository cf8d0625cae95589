/-
  What a byte stream says, as a whole.

  * `textOf`, `linesOf`, `blocksOf`: the stream as a text, its lines, and the blocks that empty
    lines end.
  * `valuesOf`, `frame?`, `framesAfter`: what the lines of a block say, and the frames of blocks.
  * `takeLines_eq_addLines`: bytes are taken in like the lines of their text.
  * `addLine_blockOf`, `addLines_blockOf`: what the decoder remembers is told by the lines since the
    last empty one and by the ids before; line by line, and over many.
  * `feed_initial_eq_framesAfter`: the frames of a stream in one piece are those that the stream says.
-/
import LightningLottery.Proofs.Stream.Cutting
import LightningLottery.Proofs.Text.Lossy

namespace LightningLottery

/-! ## What a stream says -/

namespace EventText

/-- A line without its end. -/
abbrev Line := List Char

/-- The text of a stream: one byte order mark in front is dropped. -/
def textOf (bs : Bytes) : List Char :=
  Utf8.lossyChars (FrameDecoder.unmark bs)

/-- A line without one carriage return at its end. -/
def dropReturn (line : Line) : Line :=
  if line.getLast? = some '\r' then line.dropLast else line

/-- The lines of a text; what stands behind the last line feed is none. -/
def linesOf (text : List Char) : List Line :=
  (text.splitOn '\n').dropLast.map dropReturn

/-- The blocks that empty lines end; what stands behind the last empty line is none. -/
def blocksOf (lines : List Line) : List (List Line) :=
  (lines.splitOn []).dropLast

def IsComment (line : Line) : Prop := line.head? = some ':'

instance : DecidablePred IsComment := fun line => inferInstanceAs (Decidable (line.head? = some ':'))

/-- What stands before the first colon; the whole line if there is none. -/
def fieldName (line : Line) : String := String.ofList (line.takeWhile (· != ':'))

/-- What stands behind the first colon, less one leading space. -/
def fieldValue (line : Line) : List Char :=
  match (line.dropWhile (· != ':')).drop 1 with
  | ' ' :: value => value
  | value => value

/-- The values of the fields of a name. -/
def valuesOf (name : String) (lines : List Line) : List (List Char) :=
  (lines.filter fun line => ¬ IsComment line ∧ fieldName line = name).map fieldValue

/-- The name of an event: the last that the block gives, unless it is empty. -/
def eventOf (block : List Line) : String :=
  match (valuesOf "event" block).getLast? with
  | none | some [] => defaultEvent
  | some name => String.ofList name

/-- The data of a block, if it gives any. -/
def dataOf (block : List Line) : Option String :=
  if valuesOf "data" block = [] then none
  else some (String.ofList (['\n'].intercalate (valuesOf "data" block)))

/-- The last id that lines give; one with a zero character is none. -/
def lastId (lines : List Line) : Option String :=
  ((valuesOf "id" lines).filter fun value => '\x00' ∉ value).getLast?.map String.ofList

/-- The frame of a block, if it has data; `upto` are the lines of the stream up to its end. -/
def frame? (upto block : List Line) : Option Frame :=
  (dataOf block).map fun data => ⟨eventOf block, data, lastId upto⟩

/-- The frames of blocks, one after the other, behind the lines `before`. -/
def framesAfter (before : List Line) (blocks : List (List Line)) : List Frame :=
  (blocks.mapIdx fun k block =>
    frame? (before ++ (blocks.take (k + 1)).flatten) block).flatMap Option.toList

end EventText

/-! ## Lines of a text -/

namespace Block

/-- Takes in lines one by one. -/
def addLines (block : Block) : List (List Char) → Block × List Frame
  | [] => (block, [])
  | line :: lines =>
    let read := block.addLine line
    let later := read.1.addLines lines
    (later.1, read.2.toList ++ later.2)

end Block

namespace EventText

open FrameDecoder (lineFeed carriageReturn withoutReturn takeLines)

theorem lossyChars_withoutReturn (l : Bytes) :
    Utf8.lossyChars (withoutReturn l) = dropReturn (Utf8.lossyChars l) := by
  have hreturn (bs : Bytes) (cs ds : List Char) :
      Utf8.lossyChars bs = cs ++ '\r' :: ds ↔ _ := Utf8.lossyChars_eq_append_iff (by decide)
  unfold withoutReturn
  split
  · next h =>
    obtain ⟨l', rfl⟩ := List.getLast?_eq_some_iff.1 h
    have htext : Utf8.lossyChars (l' ++ [carriageReturn]) = Utf8.lossyChars l' ++ ['\r'] :=
      (hreturn _ _ _).2 ⟨l', [], rfl, rfl, Utf8.lossyChars_nil⟩
    rw [htext, dropReturn, List.getLast?_concat, if_pos rfl, List.dropLast_concat,
      List.dropLast_concat]
  · next h =>
    rw [dropReturn, if_neg]
    intro hlast
    obtain ⟨cs, hcs⟩ := List.getLast?_eq_some_iff.1 hlast
    obtain ⟨xs, ys, rfl, -, hys⟩ := (hreturn _ _ _).1 hcs
    rw [Utf8.eq_nil_of_lossyChars hys] at h
    exact h List.getLast?_concat

/-! ## Lines of bytes -/

theorem linesOf_unended {text : List Char} (h : '\n' ∉ text) : linesOf text = [] := by
  rw [linesOf, List.splitOn_eq_singleton h]
  rfl

theorem linesOf_line {line : Line} (h : '\n' ∉ line) (text : List Char) :
    linesOf (line ++ '\n' :: text) = dropReturn line :: linesOf text := by
  rw [linesOf, List.splitOn_append_cons_self_of_not_mem h,
    List.dropLast_cons_of_ne_nil (List.splitOn_ne_nil _ _), List.map_cons]
  rfl

/-- **`takeLines` adds the lines of the decoded text.** -/
theorem takeLines_eq_addLines (block : Block) (bs : Bytes) :
    ((takeLines block bs).1, (takeLines block bs).2.1) =
      block.addLines (linesOf (Utf8.lossyChars bs)) := by
  have hfeed {l : Bytes} (h : lineFeed ∉ l) : '\n' ∉ Utf8.lossyChars l :=
    fun hmem => h ((Utf8.mem_lossyChars_iff (by decide)).1 hmem)
  induction bs using FrameDecoder.lines_induction generalizing block with
  | unended bs h =>
    rw [FrameDecoder.takeLines_unended _ h, linesOf_unended (hfeed h)]
    rfl
  | line l rest h ih =>
    have htext : Utf8.lossyChars (l ++ lineFeed :: rest) =
        Utf8.lossyChars l ++ '\n' :: Utf8.lossyChars rest :=
      (Utf8.lossyChars_eq_append_iff (by decide)).2 ⟨l, rest, rfl, rfl, rfl⟩
    rw [FrameDecoder.takeLines_line _ h, htext, linesOf_line (hfeed h), Block.addLines,
      ← lossyChars_withoutReturn, ← ih]

/-! ## Fields -/

theorem valuesOf_append (name : String) (xs ys : List Line) :
    valuesOf name (xs ++ ys) = valuesOf name xs ++ valuesOf name ys := by
  simp only [valuesOf, List.filter_append, List.map_append]

theorem valuesOf_comment {line : Line} (h : IsComment line) (name : String) (lines : List Line) :
    valuesOf name (lines ++ [line]) = valuesOf name lines := by
  rw [valuesOf_append]
  simp [valuesOf, h]

theorem valuesOf_other {line : Line} {name : String} (h : fieldName line ≠ name)
    (lines : List Line) : valuesOf name (lines ++ [line]) = valuesOf name lines := by
  rw [valuesOf_append]
  simp [valuesOf, h]

theorem valuesOf_field {line : Line} {name : String} (hc : ¬ IsComment line)
    (h : fieldName line = name) (lines : List Line) :
    valuesOf name (lines ++ [line]) = valuesOf name lines ++ [fieldValue line] := by
  rw [valuesOf_append]
  simp [valuesOf, hc, h]

theorem fieldOf_eq (line : Line) :
    Block.fieldOf line = (fieldName line, String.ofList (fieldValue line)) := by
  unfold Block.fieldOf fieldName fieldValue splitFirst?
  have hline := List.takeWhile_append_dropWhile (p := (· != ':')) (l := line)
  rcases hd : line.dropWhile (· != ':') with _ | ⟨c, value⟩
  · rw [hd, List.append_nil] at hline
    rw [hline]
    rfl
  · rcases value with _ | ⟨d, value⟩
    · rfl
    · by_cases hspace : d = ' '
      · subst hspace
        rfl
      · simp [hspace]

/-! ## Line by line -/

/-- What the decoder remembers of the lines before the last empty one, and of those since. -/
def blockOf (before since : List Line) : Block where
  event := (valuesOf "event" since).getLast?.map String.ofList
  data := dataOf since
  lastId := lastId (before ++ since)

theorem blockOf_nil (before : List Line) :
    blockOf before [] = { Block.empty with lastId := lastId before } := by
  rw [blockOf, List.append_nil]
  rfl

theorem frame?_blockOf (before since : List Line) :
    (blockOf before since).frame? = frame? (before ++ since) since := by
  unfold Block.frame? frame?
  congr 1
  funext data
  simp only [blockOf, eventOf]
  rcases (valuesOf "event" since).getLast? with _ | ⟨_ | ⟨c, name⟩⟩
  · rfl
  · rfl
  · simp

theorem blockOf_comment {line : Line} (h : IsComment line) (before since : List Line) :
    blockOf before (since ++ [line]) = blockOf before since := by
  simp only [blockOf, dataOf, lastId, ← List.append_assoc, valuesOf_comment h]

theorem intercalate_concat {values : List (List Char)} (h : values ≠ []) (c : Char)
    (value : List Char) :
    [c].intercalate (values ++ [value]) = [c].intercalate values ++ c :: value := by
  induction values with
  | nil => exact absurd rfl h
  | cons first values ih =>
    rcases values with _ | ⟨second, values⟩
    · simp [List.intercalate_cons_cons]
    · rw [List.cons_append, List.intercalate_cons_of_ne_nil (by simp), ih (by simp),
        List.intercalate_cons_cons]
      simp

theorem addData_eq {block : Block} {since : List Line} (hb : block.data = dataOf since)
    {line : Line} (hc : ¬ IsComment line) (hname : fieldName line = "data") :
    block.addData (String.ofList (fieldValue line)) =
      { block with data := dataOf (since ++ [line]) } := by
  have hvalues := valuesOf_field hc hname since
  by_cases hnone : valuesOf "data" since = []
  · simp [Block.addData, hb, dataOf, hvalues, hnone]
  · have hjoined := intercalate_concat hnone '\n' (fieldValue line)
    simp [Block.addData, hb, dataOf, hvalues, hnone, hjoined, ← String.toList_inj]

theorem any_zero_iff (value : List Char) :
    value.any (·.toNat == 0) = true ↔ '\x00' ∈ value := by
  rw [List.any_eq_true]
  constructor
  · rintro ⟨c, hc, hzero⟩
    have hc0 : c = Char.ofNat 0 := by rw [← Char.ofNat_toNat c, beq_iff_eq.1 hzero]
    exact hc0 ▸ hc
  · exact fun h => ⟨_, h, rfl⟩

theorem lastId_id {line : Line} (hc : ¬ IsComment line) (hname : fieldName line = "id")
    (lines : List Line) :
    lastId (lines ++ [line]) =
      if '\x00' ∈ fieldValue line then lastId lines else some (String.ofList (fieldValue line)) := by
  rw [lastId, valuesOf_field hc hname, List.filter_append]
  split <;> simp [lastId, *]

/-- **Adding a line that is not empty extends the block.** -/
theorem addLine_blockOf {line : Line} (h : line ≠ []) (before since : List Line) :
    (blockOf before since).addLine line = (blockOf before (since ++ [line]), none) := by
  by_cases hcomment : IsComment line
  · obtain ⟨text, rfl⟩ := List.head?_eq_some_iff.1 hcomment
    rw [blockOf_comment hcomment]
    rfl
  have hfield : (blockOf before since).addLine line =
      ((blockOf before since).addField (fieldName line) (String.ofList (fieldValue line)), none) := by
    unfold Block.addLine
    split
    · exact absurd rfl h
    · exact absurd rfl hcomment
    · rw [fieldOf_eq]
  have hother {name : String} (hne : fieldName line ≠ name) := valuesOf_other hne
  rw [hfield]
  congr 1
  unfold Block.addField
  split
  · next hname =>
    simp only [blockOf, dataOf, lastId, ← List.append_assoc, valuesOf_field hcomment hname,
      hother (show _ ≠ "data" by simp [hname]), hother (show _ ≠ "id" by simp [hname]),
      List.getLast?_concat, Option.map_some]
  · next hname =>
    rw [addData_eq rfl hcomment hname]
    simp only [blockOf, lastId, ← List.append_assoc,
      hother (show _ ≠ "event" by simp [hname]), hother (show _ ≠ "id" by simp [hname])]
  · next hname =>
    simp only [any_zero_iff, String.toList_ofList]
    simp only [blockOf, dataOf, ← List.append_assoc, lastId_id hcomment hname,
      hother (show _ ≠ "event" by simp [hname]), hother (show _ ≠ "data" by simp [hname])]
    split <;> rfl
  · next hevent hdata hid =>
    simp only [blockOf, dataOf, lastId, ← List.append_assoc, hother hevent, hother hdata,
      hother hid]

/-! ## Many lines -/

theorem framesAfter_cons (before block : List Line) (blocks : List (List Line)) :
    framesAfter before (block :: blocks) =
      (frame? (before ++ block) block).toList ++ framesAfter (before ++ block) blocks := by
  simp [framesAfter, List.mapIdx_cons]

/-- **`addLines` completes the frames of the blocks**, starting from an open block. -/
theorem addLines_blockOf {since : List Line} (h : [] ∉ since) (before lines : List Line) :
    ((blockOf before since).addLines lines).2 =
      framesAfter before (blocksOf (since ++ lines)) := by
  induction lines generalizing before since with
  | nil =>
    rw [List.append_nil, blocksOf, List.splitOn_eq_singleton h]
    rfl
  | cons line lines ih =>
    by_cases hline : line = []
    · subst hline
      have hblocks : blocksOf (since ++ [] :: lines) = since :: blocksOf lines := by
        rw [blocksOf, List.splitOn_append_cons_self_of_not_mem h,
          List.dropLast_cons_of_ne_nil (List.splitOn_ne_nil _ _), blocksOf]
      have hread : (blockOf before since).addLine [] =
          (blockOf (before ++ since) [], frame? (before ++ since) since) := by
        rw [blockOf_nil, ← frame?_blockOf]
        rfl
      rw [hblocks, framesAfter_cons, Block.addLines, hread, ih (by simp), List.nil_append]
    · have hmem : [] ∉ since ++ [line] := by
        rw [List.mem_append, List.mem_singleton, not_or]
        exact ⟨h, fun he => hline he.symm⟩
      rw [Block.addLines, addLine_blockOf hline, ih hmem, List.append_assoc,
        List.singleton_append, Option.toList_none, List.nil_append]

end EventText

/-! ## The decoder -/

namespace FrameDecoder

/-- In one piece, the mark is dropped if the bytes start with it. -/
theorem feed_initial (bs : Bytes) : (initial.feed bs).2 = (plain.feed (unmark bs)).2 := by
  rcases Nat.lt_or_ge bs.length 3 with hs | hl
  · have hmark := unmark_short hs
    obtain ⟨ended, left, rfl, he, hleft⟩ := exists_shortLines hs
    have hfeed : initial.feed (ended ++ left) = _ := feed_short hs he hleft
    rw [hfeed, hmark, feed_plain, he.takeLines_eq, takeLines_unended _ hleft]
  · exact congrArg Prod.snd (feed_long hl)

open EventText

/-- **The frames decoded from bytes in one piece are those of the blocks of the decoded text**
    (`framesAfter`). -/
theorem feed_initial_eq_framesAfter (bs : Bytes) :
    (initial.feed bs).2 = framesAfter [] (blocksOf (linesOf (textOf bs))) := by
  have htaken := congrArg Prod.snd (takeLines_eq_addLines Block.empty (unmark bs))
  rw [feed_initial, feed_plain, ← List.nil_append (linesOf (textOf bs)),
    ← addLines_blockOf List.not_mem_nil]
  exact htaken

/-- A block without data, of which the id stays; a name that is empty; and a line that is not
    ended. -/
example :
    framesAfter [] (blocksOf (linesOf (textOf
      (utf8 "id: 7\n\n: note\nevent:\r\ndata:a\ndata\n\ndata: b\n\ndata: c")))) =
      [⟨"message", "a\n", some "7"⟩, ⟨"message", "b", some "7"⟩] := by
  decide +kernel

end FrameDecoder
end LightningLottery
