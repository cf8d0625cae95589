/-
  When the frames of a byte stream depend on the pieces in which it comes.

  * `MarkIdle`: whatever follows, it makes no difference that the decoder looks for the mark where
    it does.
  * `readsPlain_iff_markIdle`: only then are the pieces read as if no mark were looked for.
  * `alike_iff_markPlace_or_idle`: two cuttings of a stream are alike if they look for the mark at
    the same place, or if that makes no difference for either; and only then.
-/
import LightningLottery.Proofs.Stream.Cutting

namespace LightningLottery.FrameDecoder

/-! ## Plain reading -/

/-- The bytes that follow the place where the decoder looks for the mark. -/
def afterPlace (cs : List Bytes) : Bytes := cs.flatten.drop (initial.markPlace cs)

/-- The decoder looks for the mark at the start of the stream, or it makes no difference whatever
    follows: two bytes are there so that the place is fixed, and a mark that stands or will come to
    stand there says as little as the line that it begins. -/
def MarkIdle (cs : List Bytes) : Prop :=
  initial.markPlace cs = 0 ∨
    2 ≤ (afterPlace cs).length ∧
      ∀ more, (plain.feed (unmark (afterPlace cs ++ more))).2 =
        (plain.feed (afterPlace cs ++ more)).2

/-- The pieces are read, and so are all that follow, as if no mark were looked for. -/
def ReadsPlain (cs : List Bytes) : Prop :=
  (initial.feedAll cs).2.flatten = (plain.feed cs.flatten).2 ∧
    ∀ more, ((initial.feedAll cs).1.feedAll more).2 = ((plain.feed cs.flatten).1.feedAll more).2

theorem ReadsPlain.alike {cs₁ cs₂ : List Bytes} (h₁ : ReadsPlain cs₁) (h₂ : ReadsPlain cs₂)
    (h : cs₁.flatten = cs₂.flatten) : Alike cs₁ cs₂ := by
  refine ⟨?_, fun more => ?_⟩
  · rw [h₁.1, h₂.1, h]
  · rw [h₁.2 more, h₂.2 more, h]

theorem ReadsPlain.of_alike {cs₁ cs₂ : List Bytes} (h₂ : ReadsPlain cs₂) (ha : Alike cs₁ cs₂)
    (h : cs₁.flatten = cs₂.flatten) : ReadsPlain cs₁ := by
  refine ⟨?_, fun more => ?_⟩
  · rw [ha.1, h₂.1, h]
  · rw [ha.2 more, h₂.2 more, h]

theorem feed_plain_shortLines {lines : Bytes} (h : ShortLines lines) (rest : Bytes) :
    plain.feed (lines ++ rest) = plain.feed rest := by
  simp only [feed_plain, h.takeLines_eq]

theorem feed_plain_nil : plain.feed [] = (plain, []) := by
  rw [feed_plain, takeLines_unended _ (by simp)]
  rfl

theorem feed_plain_append (xs ys : Bytes) :
    (plain.feed (xs ++ ys)).2 = (plain.feed xs).2 ++ ((plain.feed xs).1.feed ys).2 := by
  rw [feed_append rfl]

/-- If any one piece is read the same behind two texts, then so are any number of them. -/
theorem feedAll_plain_congr {xs ys : Bytes}
    (h : ∀ more, (plain.feed (xs ++ more)).2 = (plain.feed (ys ++ more)).2) :
    (plain.feed xs).2 = (plain.feed ys).2 ∧
      ∀ more, ((plain.feed xs).1.feedAll more).2 = ((plain.feed ys).1.feedAll more).2 := by
  have hnow : (plain.feed xs).2 = (plain.feed ys).2 := by simpa using h []
  refine ⟨hnow, fun more => ?_⟩
  induction more generalizing xs ys with
  | nil => rfl
  | cons chunk more ih =>
    have hone : ((plain.feed xs).1.feed chunk).2 = ((plain.feed ys).1.feed chunk).2 := by
      have := h chunk
      rw [feed_plain_append, feed_plain_append, hnow] at this
      exact List.append_cancel_left this
    have hstate (zs : Bytes) :
        ((plain.feed zs).1.feed chunk).1 = (plain.feed (zs ++ chunk)).1 := by
      rw [feed_append rfl zs]
    have hlater : ∀ m, (plain.feed (xs ++ chunk ++ m)).2 = (plain.feed (ys ++ chunk ++ m)).2 := by
      intro m
      simpa only [List.append_assoc] using h (chunk ++ m)
    have := ih hlater (by simpa using hlater [])
    simp only [feedAll, hone, hstate, this]

/-! ## Reading behind the place -/

/-- A frame behind a byte order mark. -/
def markedFrame : Bytes := byteOrderMark ++ utf8 "data: x\n\n"

theorem feed_looking_markedFrame :
    (looking []).feed markedFrame = (plain, [⟨defaultEvent, "x", none⟩]) := by
  decide +kernel

theorem feed_plain_markedFrame : plain.feed markedFrame = (plain, []) := by
  decide +kernel

/-- Behind two bytes in front of which `unmark` makes no difference, further pieces are read the same
    with looking for the mark and without. -/
theorem feedAll_pair {rest : Bytes} (hu : Undecided rest) (h2 : 2 ≤ rest.length)
    (h : ∀ more, (plain.feed (unmark (rest ++ more))).2 = (plain.feed (rest ++ more)).2)
    (more : List Bytes) :
    ((looking rest).feedAll more).2 = ((plain.feed rest).1.feedAll more).2 := by
  have hplain : (plain.feed rest).1 = ⟨rest, Block.empty, true⟩ := by
    rw [feed_plain, takeLines_unended _ hu.2]
  induction more with
  | nil => rfl
  | cons chunk more ih =>
    rcases chunk with _ | ⟨b, chunk⟩
    · have hlooking : (looking rest).feed [] = (looking rest, []) := by
        rw [feed_looking, List.append_nil, feed_undecided hu]
      have hstill : (plain.feed rest).1.feed [] = ((plain.feed rest).1, []) := by
        rw [hplain, feed_started rfl]
        simp only [List.append_nil, takeLines_unended _ hu.2]
      simp only [feedAll, hlooking, hstill, ih]
    · have hl : 3 ≤ (rest ++ b :: chunk).length := by
        simp only [List.length_append, List.length_cons]
        omega
      have hnext : (plain.feed rest).1.feed (b :: chunk) = plain.feed (rest ++ b :: chunk) := by
        rw [hplain]; rfl
      have hcongr (m : Bytes) : (plain.feed (unmark (rest ++ b :: chunk) ++ m)).2 =
          (plain.feed (rest ++ b :: chunk ++ m)).2 := by
        rw [← unmark_append hl, List.append_assoc, h]
      obtain ⟨hone, hlater⟩ := feedAll_plain_congr hcongr
      simp only [feedAll, hnext, feed_looking rest, feed_long hl, hone, hlater more]

theorem two_le_of_plain {rest : Bytes} (hu : rest.length < 3 → lineFeed ∉ rest)
    (h : ∀ more, (((looking []).feed rest).1.feedAll more).2 =
      ((plain.feed rest).1.feedAll more).2) : 2 ≤ rest.length := by
  rcases rest with _ | ⟨b, _ | ⟨c, rest⟩⟩
  · -- the mark follows at once
    have := h [markedFrame]
    have hnone : (looking []).feed [] = (looking [], []) := feed_undecided undecided_nil
    simp [feedAll, hnone, feed_plain_nil, feed_looking_markedFrame, feed_plain_markedFrame] at this
  · -- the mark follows once the line that has begun is ended
    have := h [[lineFeed], markedFrame]
    have hb : Undecided [b] := ⟨by simp, hu (by simp)⟩
    have hline : ShortLines ([b] ++ [lineFeed]) := .line (by simp) hb.2 .nil
    have hended : (looking [b]).feed [lineFeed] = (looking [], []) := by
      rw [feed_looking, ← List.append_nil ([b] ++ [lineFeed])]
      exact feed_short (by simp) hline (by simp)
    have hplain : (plain.feed [b]).1.feed [lineFeed] = (plain, []) := by
      have : (plain.feed [b]).1.feed [lineFeed] = plain.feed ([b] ++ [lineFeed] ++ []) := by
        rw [feed_plain [b], takeLines_unended _ hb.2]; rfl
      rw [this, feed_plain_shortLines hline, feed_plain_nil]
    simp [feedAll, feed_undecided hb, hended, hplain, feed_looking_markedFrame,
      feed_plain_markedFrame] at this
  · simp

theorem feed_looking_append {rest : Bytes} (hu : rest.length < 3 → lineFeed ∉ rest)
    (h2 : 2 ≤ rest.length) (more : Bytes) :
    ((looking []).feed rest).2 ++ (((looking []).feed rest).1.feed more).2 =
      (plain.feed (unmark (rest ++ more))).2 := by
  rcases Nat.lt_or_ge rest.length 3 with hs | hl
  · rw [feed_undecided ⟨hs, hu hs⟩, List.nil_append, feed_looking]
    rcases more with _ | ⟨b, more⟩
    · have hmark := unmark_short hs
      rw [List.append_nil, feed_undecided ⟨hs, hu hs⟩, hmark, feed_plain,
        takeLines_unended _ (hu hs)]
    · rw [feed_long (by simp only [List.length_append, List.length_cons]; omega)]
  · rw [feed_long hl, unmark_append hl, feed_plain_append]

/-- **A decoder that looks for the mark reads bytes as one that does not** if and only if there are
    two bytes and no mark in front of them is dropped. -/
theorem feed_looking_plain_iff {rest : Bytes} (hu : rest.length < 3 → lineFeed ∉ rest) :
    (((looking []).feed rest).2 = (plain.feed rest).2 ∧
        ∀ more, (((looking []).feed rest).1.feedAll more).2 =
          ((plain.feed rest).1.feedAll more).2) ↔
      2 ≤ rest.length ∧
        ∀ more, (plain.feed (unmark (rest ++ more))).2 = (plain.feed (rest ++ more)).2 := by
  constructor
  · rintro ⟨hnow, hlater⟩
    have h2 := two_le_of_plain hu hlater
    refine ⟨h2, fun more => ?_⟩
    have hone := hlater [more]
    simp only [feedAll, List.cons.injEq, and_true] at hone
    rw [← feed_looking_append hu h2, feed_plain_append, hnow, hone]
  · rintro ⟨h2, h⟩
    rcases Nat.lt_or_ge rest.length 3 with hs | hl
    · rw [feed_undecided ⟨hs, hu hs⟩]
      refine ⟨?_, feedAll_pair ⟨hs, hu hs⟩ h2 h⟩
      rw [feed_plain, takeLines_unended _ (hu hs)]
    · rw [feed_long hl]
      exact feedAll_plain_congr fun more => by rw [← unmark_append hl, h]

/-! ## Cuttings that differ -/

theorem ReadsAs.afterPlace_eq {cs : List Bytes} {lines rest : Bytes}
    (r : ReadsAs [] cs lines rest) : afterPlace cs = rest := by
  have hb : cs.flatten = lines ++ rest := r.bytes
  have hp : initial.markPlace cs = lines.length := r.place
  rw [afterPlace, hb, hp, List.drop_left]

/-- The place for the mark is the start, unless a line ends within the first two bytes. -/
theorem lineFeed_mem_of_markPlace {cs : List Bytes} (h : initial.markPlace cs ≠ 0) :
    lineFeed ∈ cs.flatten.take 2 := by
  obtain ⟨lines, rest, r⟩ := exists_readsAs undecided_nil cs
  have hb : cs.flatten = lines ++ rest := r.bytes
  have hp : initial.markPlace cs = lines.length := r.place
  rw [hb]
  refine r.short.lineFeed_mem ?_ rest
  rintro rfl
  exact h hp

theorem lineFeed_mem_of_places {cs₁ cs₂ : List Bytes} (h : cs₁.flatten = cs₂.flatten)
    (hne : initial.markPlace cs₁ ≠ initial.markPlace cs₂) : lineFeed ∈ cs₁.flatten.take 2 := by
  by_cases h0 : initial.markPlace cs₁ = 0
  · rw [h]
    exact lineFeed_mem_of_markPlace fun h0' => hne (h0.trans h0'.symm)
  · exact lineFeed_mem_of_markPlace h0

/-- **If a line ends before the third byte, a cut is read plainly if and only if it is `MarkIdle`.**
    -/
theorem readsPlain_iff_markIdle {cs : List Bytes} (h : lineFeed ∈ cs.flatten.take 2) :
    ReadsPlain cs ↔ MarkIdle cs := by
  obtain ⟨lines, rest, r⟩ := exists_readsAs undecided_nil cs
  have hb : cs.flatten = lines ++ rest := r.bytes
  have hp : initial.markPlace cs = lines.length := r.place
  have hstate : (initial.feedAll cs).1 = ((looking []).feed rest).1 := r.state
  have hframes : (initial.feedAll cs).2.flatten = ((looking []).feed rest).2 := r.frames
  have hwhole : plain.feed cs.flatten = plain.feed rest := by
    rw [hb, feed_plain_shortLines r.short]
  unfold ReadsPlain MarkIdle
  rw [hstate, hframes, hwhole, r.afterPlace_eq, feed_looking_plain_iff r.unended, hp]
  refine ⟨Or.inr, fun hidle => ?_⟩
  rcases hidle with h0 | hidle
  · obtain rfl := List.eq_nil_of_length_eq_zero h0
    rw [List.nil_append] at hb
    have hl : 3 ≤ rest.length := by
      by_contra hs
      exact r.unended (by omega) (hb ▸ List.mem_of_mem_take h)
    refine ⟨by omega, fun more => ?_⟩
    rw [unmark_early]
    rw [List.take_append_of_le_length (by omega)]
    exact hb ▸ h
  · exact hidle

/-- If two cuts of the same bytes have different places for the mark, the one with the earlier place
    is `MarkIdle`. -/
theorem markIdle_of_lt {cs₁ cs₂ : List Bytes} (h : cs₁.flatten = cs₂.flatten)
    (hlt : initial.markPlace cs₁ < initial.markPlace cs₂) : MarkIdle cs₁ := by
  obtain ⟨lines₁, rest₁, r₁⟩ := exists_readsAs undecided_nil cs₁
  obtain ⟨lines₂, rest₂, r₂⟩ := exists_readsAs undecided_nil cs₂
  have hp₁ : initial.markPlace cs₁ = lines₁.length := r₁.place
  have hp₂ : initial.markPlace cs₂ = lines₂.length := r₂.place
  have hb : lines₂ ++ rest₂ = lines₁ ++ rest₁ := by
    rw [← r₁.bytes, ← r₂.bytes, h]
  obtain ⟨lines, rfl, rfl⟩ : ∃ lines, lines₂ = lines₁ ++ lines ∧ rest₁ = lines ++ rest₂ := by
    rcases List.append_eq_append_iff.1 hb with ⟨ls, hl, -⟩ | ⟨ls, hl, hr⟩
    · have := congrArg List.length hl
      rw [List.length_append] at this
      omega
    · exact ⟨ls, hl, hr⟩
  have hne : lines ≠ [] := by
    rintro rfl
    rw [List.append_nil] at hp₂
    omega
  have hearly (more : Bytes) : lineFeed ∈ (lines ++ rest₂ ++ more).take 2 := by
    rw [List.append_assoc]
    exact (r₁.short.of_append r₂.short).lineFeed_mem hne _
  refine Or.inr ⟨?_, fun more => ?_⟩
  · rw [r₁.afterPlace_eq]
    by_contra hs
    exact r₁.unended (by omega) (by simpa using List.mem_of_mem_take (hearly []))
  · rw [r₁.afterPlace_eq, unmark_early (hearly more)]

/-- Two cuts that are `Alike` and have different places for the mark are both `MarkIdle`. -/
theorem markIdle_of_alike {cs₁ cs₂ : List Bytes} (h : cs₁.flatten = cs₂.flatten)
    (ha : Alike cs₁ cs₂) (hne : initial.markPlace cs₁ ≠ initial.markPlace cs₂) :
    MarkIdle cs₁ ∧ MarkIdle cs₂ := by
  have hearly := lineFeed_mem_of_places h hne
  have hiff₁ := readsPlain_iff_markIdle hearly
  have hiff₂ := readsPlain_iff_markIdle (h ▸ hearly)
  rcases Nat.lt_or_gt_of_ne hne with hlt | hgt
  · have hidle := markIdle_of_lt h hlt
    exact ⟨hidle, hiff₂.1 ((hiff₁.2 hidle).of_alike ha.symm h.symm)⟩
  · have hidle := markIdle_of_lt h.symm hgt
    exact ⟨hiff₁.1 ((hiff₂.2 hidle).of_alike ha h), hidle⟩

/-- **Two cuts of the same bytes are `Alike`**, that is, decode to the same frames, if and only if
    the byte order mark is looked for at the same place in both or makes no difference in either.
    Without a piece that is cut early the places are the same. -/
theorem alike_iff_markPlace_or_idle (cs₁ cs₂ : List Bytes) (h : cs₁.flatten = cs₂.flatten) :
    (Alike cs₁ cs₂ ↔
      initial.markPlace cs₁ = initial.markPlace cs₂ ∨ MarkIdle cs₁ ∧ MarkIdle cs₂) ∧
      (¬ CutEarly cs₁ ∧ ¬ CutEarly cs₂ → Alike cs₁ cs₂) := by
  refine ⟨⟨fun ha => ?_, ?_⟩, ?_⟩
  · by_cases hp : initial.markPlace cs₁ = initial.markPlace cs₂
    · exact Or.inl hp
    · exact Or.inr (markIdle_of_alike h ha hp)
  · rintro (hp | ⟨h₁, h₂⟩)
    · exact alike_of_markPlace h hp
    by_cases hp : initial.markPlace cs₁ = initial.markPlace cs₂
    · exact alike_of_markPlace h hp
    have hearly := lineFeed_mem_of_places h hp
    exact ((readsPlain_iff_markIdle hearly).2 h₁).alike
      ((readsPlain_iff_markIdle (h ▸ hearly)).2 h₂) h
  · rintro ⟨h₁, h₂⟩
    exact (alike_of_not_cutEarly h₁).trans (h ▸ (alike_of_not_cutEarly h₂).symm)

/-- A stream that is cut inside the mark and between the two bytes that end its first line. -/
theorem alike_cut_in_mark :
    [[0xEF], [0xBB, 0xBF] ++ utf8 "data: x\r", [lineFeed, lineFeed]].flatten =
        [byteOrderMark ++ utf8 "data: x\r\n\n"].flatten ∧
      Alike [[0xEF], [0xBB, 0xBF] ++ utf8 "data: x\r", [lineFeed, lineFeed]]
        [byteOrderMark ++ utf8 "data: x\r\n\n"] := by
  have h : [[0xEF], [0xBB, 0xBF] ++ utf8 "data: x\r", [lineFeed, lineFeed]].flatten =
      [byteOrderMark ++ utf8 "data: x\r\n\n"].flatten := by
    decide
  exact ⟨h, (alike_iff_markPlace_or_idle _ _ h).1.2 (Or.inl (by decide +kernel))⟩

/-- The mark behind an empty line is dropped if the line comes in a piece of its own, and kept in
    one piece. -/
theorem not_alike_mark_behind_line :
    ¬ ∀ cs₁ cs₂ : List Bytes, cs₁.flatten = cs₂.flatten → Alike cs₁ cs₂ := by
  intro h
  have hcut : (initial.feedAll [[lineFeed], markedFrame]).2.flatten =
      [⟨defaultEvent, "x", none⟩] := by
    decide +kernel
  have hwhole : (initial.feedAll [lineFeed :: markedFrame]).2.flatten = [] := by
    decide +kernel
  have := (h [[lineFeed], markedFrame] [lineFeed :: markedFrame] rfl).1
  rw [hcut, hwhole] at this
  cases this

end LightningLottery.FrameDecoder
