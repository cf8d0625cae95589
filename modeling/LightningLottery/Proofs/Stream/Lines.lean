/-
  Laws of taking in lines.

  * `lines_induction`: bytes are a line that is not ended, or a line, its end, and more bytes.
  * `takeLines_append`: what comes later is taken in behind what was left over.
  * `ShortLines`: lines of one byte at most, which say nothing in front of a stream.
  * `exists_shortLines`: fewer than three bytes are such lines and the start of another.
-/
import LightningLottery.Proofs.Text.Split
import LightningLottery.Stream.Frame

namespace LightningLottery.FrameDecoder

/-! ## Whole lines -/

/-- Induction over the lines of a byte sequence, the first of which comes first. -/
@[elab_as_elim]
theorem lines_induction {P : Bytes → Prop} (unended : ∀ bs, lineFeed ∉ bs → P bs)
    (line : ∀ l rest, lineFeed ∉ l → P rest → P (l ++ lineFeed :: rest)) (bs : Bytes) : P bs := by
  by_cases h : lineFeed ∈ bs
  · obtain ⟨l, rest, hbs, hl⟩ := List.eq_append_cons_of_mem h
    exact hbs ▸ line l rest hl (lines_induction unended line rest)
  · exact unended bs h
termination_by bs.length
decreasing_by rw [hbs, List.length_append, List.length_cons]; omega

theorem takeLines_unended (block : Block) {bs : Bytes} (h : lineFeed ∉ bs) :
    takeLines block bs = (block, [], bs) := by
  rw [takeLines]
  split
  · rfl
  · next b rest hd =>
    have hnil : bs.dropWhile (· != lineFeed) = [] := by
      rw [List.dropWhile_eq_nil_iff]
      intro b hb
      rw [bne_iff_ne]
      rintro rfl
      exact h hb
    rw [hnil] at hd
    cases hd

theorem takeLines_line (block : Block) {l rest : Bytes} (h : lineFeed ∉ l) :
    takeLines block (l ++ lineFeed :: rest) =
      let read := block.addLine (Utf8.lossyChars (withoutReturn l))
      let later := takeLines read.1 rest
      (later.1, read.2.toList ++ later.2.1, later.2.2) := by
  obtain ⟨htake, hdrop⟩ := takeWhile_ne_append h rest
  rw [takeLines]
  split
  · next hd => rw [hdrop] at hd; cases hd
  · next b rest' hd =>
    rw [hdrop] at hd
    cases hd
    rw [htake]

/-- **What comes later is taken in behind what was left over.** -/
theorem takeLines_append (block : Block) (xs ys : Bytes) :
    takeLines block (xs ++ ys) =
      let first := takeLines block xs
      let later := takeLines first.1 (first.2.2 ++ ys)
      (later.1, first.2.1 ++ later.2.1, later.2.2) := by
  induction xs using lines_induction generalizing block with
  | unended xs h => simp [takeLines_unended _ h]
  | line l rest h ih => simp [takeLines_line _ h, ih]

theorem lineFeed_notMem_left (block : Block) (bs : Bytes) :
    lineFeed ∉ (takeLines block bs).2.2 := by
  induction bs using lines_induction generalizing block with
  | unended bs h => rwa [takeLines_unended _ h]
  | line l rest h ih => simpa only [takeLines_line _ h] using ih _

/-! ## Short lines -/

theorem lossyChars_length_le (bs : Bytes) : (Utf8.lossyChars bs).length ≤ bs.length := by
  fun_induction Utf8.lossyChars bs with
  | case1 => simp
  | case2 bs c rest _ hlt ih => rw [List.length_cons]; omega
  | case3 bs n rest _ hlt ih => rw [List.length_cons]; omega
  | case4 bs hcut =>
    have : bs ≠ [] := by rintro rfl; simp [Utf8.step] at hcut
    have := List.length_pos_iff.2 this
    rw [List.length_singleton]; omega

theorem addField_char (block : Block) (c : Char) (value : String) :
    block.addField (String.ofList [c]) value = block := by
  have hname (name : String) (hn : name.length ≠ 1) : String.ofList [c] ≠ name := by
    rintro rfl
    simp at hn
  unfold Block.addField
  split
  · next he => exact absurd he (hname _ (by decide))
  · next he => exact absurd he (hname _ (by decide))
  · next he => exact absurd he (hname _ (by decide))
  · rfl

/-- A line of one character at most says nothing in front of a stream. -/
theorem addLine_short {line : List Char} (h : line.length ≤ 1) :
    Block.empty.addLine line = (Block.empty, none) := by
  rcases line with _ | ⟨c, _ | ⟨c', line⟩⟩
  · rfl
  · by_cases hc : c = ':'
    · subst hc; rfl
    · have hfield : Block.fieldOf [c] = (String.ofList [c], "") := by
        simp [Block.fieldOf, splitFirst?, hc]
      unfold Block.addLine
      split
      · next he => cases he
      · next he => cases he; exact absurd rfl hc
      · simp only [hfield, addField_char]
  · simp at h

theorem addLine_byte {l : Bytes} (h : l.length ≤ 1) :
    Block.empty.addLine (Utf8.lossyChars (withoutReturn l)) = (Block.empty, none) := by
  have hlen : (withoutReturn l).length ≤ l.length := by
    unfold withoutReturn
    split <;> simp
  exact addLine_short ((lossyChars_length_le _).trans (hlen.trans h))

/-- Lines of one byte at most, all of them ended. -/
inductive ShortLines : Bytes → Prop
  | nil : ShortLines []
  | line {l rest : Bytes} (short : l.length ≤ 1) (one : lineFeed ∉ l) (later : ShortLines rest) :
    ShortLines (l ++ lineFeed :: rest)

namespace ShortLines

theorem append {xs ys : Bytes} (hx : ShortLines xs) (hy : ShortLines ys) :
    ShortLines (xs ++ ys) := by
  induction hx with
  | nil => exact hy
  | line short one _ ih =>
    rw [List.append_assoc, List.cons_append]
    exact line short one ih

theorem of_append {xs ys : Bytes} (hx : ShortLines xs) (h : ShortLines (xs ++ ys)) :
    ShortLines ys := by
  induction hx with
  | nil => exact h
  | @line l rest _ one _ ih =>
    apply ih
    rw [List.append_assoc, List.cons_append] at h
    generalize hz : l ++ lineFeed :: (rest ++ ys) = zs at h
    cases h with
    | nil => simp at hz
    | line _ one' later =>
      have hrest := congrArg (List.dropWhile (· != lineFeed)) hz
      rw [(takeWhile_ne_append one _).2, (takeWhile_ne_append one' _).2, List.cons.injEq] at hrest
      exact hrest.2 ▸ later

theorem lineFeed_mem {xs : Bytes} (hx : ShortLines xs) (hne : xs ≠ []) (ys : Bytes) :
    lineFeed ∈ (xs ++ ys).take 2 := by
  cases hx with
  | nil => exact absurd rfl hne
  | line short one later =>
    rename_i l rest
    rcases l with _ | ⟨b, _ | ⟨b', l⟩⟩
    · simp
    · simp
    · simp at short

/-- **Short lines in front of a stream say nothing.** -/
theorem takeLines_eq {xs : Bytes} (hx : ShortLines xs) (ys : Bytes) :
    takeLines Block.empty (xs ++ ys) = takeLines Block.empty ys := by
  induction hx with
  | nil => rfl
  | line short one _ ih =>
    rw [List.append_assoc, List.cons_append, takeLines_line _ one, addLine_byte short]
    simp only [ih, Option.toList_none, List.nil_append]

end ShortLines

/-- Fewer than three bytes are short lines and the start of another. -/
theorem exists_shortLines {bs : Bytes} (h : bs.length < 3) :
    ∃ ended left, bs = ended ++ left ∧ ShortLines ended ∧ lineFeed ∉ left := by
  induction bs using lines_induction with
  | unended bs hbs => exact ⟨[], bs, rfl, .nil, hbs⟩
  | line l rest hl ih =>
    simp only [List.length_append, List.length_cons] at h
    obtain ⟨ended, left, rfl, hended, hleft⟩ := ih (by omega)
    exact ⟨l ++ lineFeed :: ended, left, by simp, .line (by omega) hl hended, hleft⟩

end LightningLottery.FrameDecoder
