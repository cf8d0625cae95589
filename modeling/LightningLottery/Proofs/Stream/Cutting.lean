/-
  What a cutting of a byte stream into pieces leads to.

  The decoder looks for the byte order mark when a piece first makes three bytes or more wait in
  its buffer. Lines that ended before are gone by then, so the place where it looks need not be the
  start of the stream.

  * `markPlace`: the place where it looks.
  * `exists_readsAs`: only what follows that place is read, as if it came in one piece.
  * `alike_of_markPlace`: cuttings that look at the same place are alike, now and after any input.
  * `alike_of_not_cutEarly`: so are all cuttings, unless one cuts after fewer than three bytes of
    which one ends a line.
-/
import LightningLottery.Proofs.Stream.Lines

namespace LightningLottery.FrameDecoder

/-! ## One piece -/

/-- Bytes without the byte order mark, if they start with it. -/
def unmark (bs : Bytes) : Bytes := if byteOrderMark.isPrefixOf bs then bs.drop 3 else bs

/-- A decoder that looks for no mark. -/
def plain : FrameDecoder := ⟨[], Block.empty, true⟩

/-- A decoder that still looks for the byte order mark, and has read nothing that says anything. -/
def looking (buffer : Bytes) : FrameDecoder := ⟨buffer, Block.empty, false⟩

/-- The start of a line, too short to tell whether a mark stands in front of it. -/
def Undecided (buffer : Bytes) : Prop := buffer.length < 3 ∧ lineFeed ∉ buffer

theorem undecided_nil : Undecided [] := ⟨by simp, by simp⟩

theorem feed_started {d : FrameDecoder} (h : d.started = true) (chunk : Bytes) :
    d.feed chunk =
      let taken := takeLines d.block (d.buffer ++ chunk)
      (⟨taken.2.2, taken.1, true⟩, taken.2.1) := by
  simp [feed, start, h]

theorem feed_plain (bs : Bytes) :
    plain.feed bs =
      let taken := takeLines Block.empty bs
      (⟨taken.2.2, taken.1, true⟩, taken.2.1) := feed_started rfl bs

/-- The buffer of a decoder that looks for the mark might as well come with the next piece. -/
theorem feed_looking (buffer chunk : Bytes) :
    (looking buffer).feed chunk = (looking []).feed (buffer ++ chunk) := rfl

theorem feed_long {bs : Bytes} (h : 3 ≤ bs.length) :
    (looking []).feed bs = plain.feed (unmark bs) := by
  rw [feed_plain]
  simp only [looking, feed, start, List.nil_append, h, decide_true, Bool.not_false, Bool.and_self,
    if_true, unmark]
  rfl

theorem feed_short {ended left : Bytes} (h : (ended ++ left).length < 3)
    (he : ShortLines ended) (hl : lineFeed ∉ left) :
    (looking []).feed (ended ++ left) = (looking left, []) := by
  have : ¬ 3 ≤ (ended ++ left).length := by omega
  simp only [looking, feed, start, List.nil_append, this, decide_false, Bool.and_false,
    Bool.false_eq_true, if_false, he.takeLines_eq, takeLines_unended _ hl]

theorem feed_undecided {buffer : Bytes} (h : Undecided buffer) :
    (looking []).feed buffer = (looking buffer, []) :=
  feed_short (show ([] ++ buffer).length < 3 from h.1) .nil h.2

theorem unmark_append {xs : Bytes} (h : 3 ≤ xs.length) (ys : Bytes) :
    unmark (xs ++ ys) = unmark xs ++ ys := by
  have hp : byteOrderMark.isPrefixOf (xs ++ ys) = byteOrderMark.isPrefixOf xs := by
    rw [Bool.eq_iff_iff, List.isPrefixOf_iff_prefix, List.isPrefixOf_iff_prefix]
    exact ⟨fun hm => List.prefix_of_prefix_length_le hm (List.prefix_append xs ys) h,
      fun hm => hm.trans (List.prefix_append xs ys)⟩
  unfold unmark
  rw [hp]
  split
  · rw [List.drop_append_of_le_length h]
  · rfl

theorem unmark_short {bs : Bytes} (h : bs.length < 3) : unmark bs = bs := by
  unfold unmark
  rw [if_neg]
  intro hm
  have := (List.isPrefixOf_iff_prefix.1 hm).length_le
  simp only [byteOrderMark, List.length_cons, List.length_nil] at this
  omega

theorem unmark_early {bs : Bytes} (h : lineFeed ∈ bs.take 2) : unmark bs = bs := by
  unfold unmark
  rw [if_neg]
  intro hm
  rw [List.isPrefixOf_iff_prefix] at hm
  obtain ⟨rest, rfl⟩ := hm
  simp [byteOrderMark, lineFeed] at h

/-! ## Many pieces -/

/-- Behind the place for the mark, cuts make no difference. -/
theorem feed_append {d : FrameDecoder} (h : d.started = true) (xs ys : Bytes) :
    d.feed (xs ++ ys) = let next := (d.feed xs).1.feed ys
      (next.1, (d.feed xs).2 ++ next.2) := by
  rw [feed_started h (xs ++ ys), feed_started h xs, feed_started rfl, ← List.append_assoc,
    takeLines_append _ (d.buffer ++ xs)]

theorem feedAll_started {d : FrameDecoder} (h : d.started = true) (hb : lineFeed ∉ d.buffer)
    (chunks : List Bytes) :
    (d.feedAll chunks).1 = (d.feed chunks.flatten).1 ∧
      (d.feedAll chunks).2.flatten = (d.feed chunks.flatten).2 := by
  induction chunks generalizing d with
  | nil =>
    obtain ⟨buffer, block, started⟩ := d
    subst h
    simp [feedAll, feed_started, takeLines_unended _ hb]
  | cons chunk chunks ih =>
    have hnext : (d.feed chunk).1.started = true := by rw [feed_started h]
    have hleft : lineFeed ∉ (d.feed chunk).1.buffer := by
      rw [feed_started h]; exact lineFeed_notMem_left _ _
    obtain ⟨h1, h2⟩ := ih hnext hleft
    simp only [feedAll, List.flatten_cons, h1, h2, feed_append h chunk, and_self]

theorem feedAll_plain (xs : Bytes) (chunks : List Bytes) :
    ((plain.feed xs).1.feedAll chunks).1 = (plain.feed (xs ++ chunks.flatten)).1 ∧
      (plain.feed xs).2 ++ ((plain.feed xs).1.feedAll chunks).2.flatten =
        (plain.feed (xs ++ chunks.flatten)).2 := by
  have hleft : lineFeed ∉ (plain.feed xs).1.buffer := by
    rw [feed_plain]; exact lineFeed_notMem_left _ _
  obtain ⟨h1, h2⟩ := feedAll_started (d := (plain.feed xs).1) (by rw [feed_plain]) hleft chunks
  rw [h1, h2, feed_append (d := plain) rfl]
  exact ⟨rfl, rfl⟩

/-- Where the decoder looks for the byte order mark, or would look next: the number of bytes that it
    has taken in as lines before, those in its buffer included. -/
def markPlace (d : FrameDecoder) : List Bytes → Nat
  | [] => 0
  | chunk :: chunks =>
    if d.started || 3 ≤ (d.buffer ++ chunk).length then 0
    else
      let next := (d.feed chunk).1
      (d.buffer ++ chunk).length - next.buffer.length + next.markPlace chunks

theorem markPlace_long {buffer chunk : Bytes} (h : 3 ≤ (buffer ++ chunk).length)
    (chunks : List Bytes) : (looking buffer).markPlace (chunk :: chunks) = 0 := by
  rw [markPlace, if_pos (by simp only [looking, h, decide_true, Bool.or_true])]

theorem markPlace_short {buffer chunk ended left : Bytes} (hs : (buffer ++ chunk).length < 3)
    (hb : buffer ++ chunk = ended ++ left) (he : ShortLines ended) (hl : lineFeed ∉ left)
    (chunks : List Bytes) :
    (looking buffer).markPlace (chunk :: chunks) =
      ended.length + (looking left).markPlace chunks := by
  have : ¬ 3 ≤ (buffer ++ chunk).length := by omega
  rw [markPlace, feed_looking, hb, feed_short (hb ▸ hs) he hl,
    if_neg (by simp only [looking, this, decide_false, Bool.or_false, Bool.false_eq_true,
      not_false_eq_true])]
  simp only [looking, hb, List.length_append, Nat.add_sub_cancel]

theorem markPlace_one (buffer chunk : Bytes) :
    (looking buffer).markPlace [chunk] = (looking []).markPlace [buffer ++ chunk] := rfl

/-- How pieces are read: `lines` are taken in before the decoder looks for the mark and say
    nothing, and `rest` is read as if it came in one piece. -/
structure ReadsAs (buffer : Bytes) (chunks : List Bytes) (lines rest : Bytes) : Prop where
  bytes : buffer ++ chunks.flatten = lines ++ rest
  place : (looking buffer).markPlace chunks = lines.length
  short : ShortLines lines
  unended : rest.length < 3 → lineFeed ∉ rest
  state : ((looking buffer).feedAll chunks).1 = ((looking []).feed rest).1
  frames : ((looking buffer).feedAll chunks).2.flatten = ((looking []).feed rest).2

theorem readsAs_nil {buffer : Bytes} (h : Undecided buffer) : ReadsAs buffer [] [] buffer := by
  refine ⟨by simp, rfl, .nil, fun _ => h.2, ?_, ?_⟩
  · rw [feed_undecided h]; rfl
  · rw [feed_undecided h]; rfl

/-- The mark is looked for in the first piece; from then on cuts do not matter. -/
theorem readsAs_long {buffer chunk : Bytes} (hl : 3 ≤ (buffer ++ chunk).length)
    (chunks : List Bytes) :
    ReadsAs buffer (chunk :: chunks) [] (buffer ++ (chunk :: chunks).flatten) := by
  have hwhole : 3 ≤ (buffer ++ (chunk :: chunks).flatten).length := by
    simp only [List.flatten_cons, List.length_append] at hl ⊢
    omega
  have hbytes : unmark (buffer ++ (chunk :: chunks).flatten) =
      unmark (buffer ++ chunk) ++ chunks.flatten := by
    rw [List.flatten_cons, ← List.append_assoc, unmark_append hl]
  obtain ⟨h1, h2⟩ := feedAll_plain (unmark (buffer ++ chunk)) chunks
  refine ⟨rfl, markPlace_long hl chunks, .nil, fun h => by omega, ?_, ?_⟩
  · rw [feed_long hwhole, hbytes, ← h1, feedAll, feed_looking, feed_long hl]
  · rw [feed_long hwhole, hbytes, ← h2, feedAll, feed_looking, feed_long hl, List.flatten_cons]

/-- The first piece is too short to tell, and only its lines are taken in. -/
theorem readsAs_short {buffer chunk ended left : Bytes} (hs : (buffer ++ chunk).length < 3)
    (hb : buffer ++ chunk = ended ++ left) (he : ShortLines ended) (hl : lineFeed ∉ left)
    {chunks : List Bytes} {lines rest : Bytes} (ih : ReadsAs left chunks lines rest) :
    ReadsAs buffer (chunk :: chunks) (ended ++ lines) rest := by
  have hfeed : (looking buffer).feed chunk = (looking left, []) := by
    rw [feed_looking, hb, feed_short (hb ▸ hs) he hl]
  refine ⟨?_, ?_, he.append ih.short, ih.unended, ?_, ?_⟩
  · rw [List.flatten_cons, ← List.append_assoc, hb, List.append_assoc, ih.bytes, List.append_assoc]
  · rw [markPlace_short hs hb he hl, ih.place, List.length_append]
  · rw [feedAll, hfeed, ← ih.state]
  · rw [feedAll, hfeed, ← ih.frames, List.flatten_cons, List.nil_append]

/-- **Pieces are read in two parts**: the lines before the place where the decoder looks for the
    mark, which say nothing, and then all that follows, as if in one piece. -/
theorem exists_readsAs {buffer : Bytes} (h : Undecided buffer) (chunks : List Bytes) :
    ∃ lines rest, ReadsAs buffer chunks lines rest := by
  induction chunks generalizing buffer with
  | nil => exact ⟨_, _, readsAs_nil h⟩
  | cons chunk chunks ih =>
    rcases Nat.lt_or_ge (buffer ++ chunk).length 3 with hs | hl
    · obtain ⟨ended, left, hb, he, hleft⟩ := exists_shortLines hs
      have hlen : (buffer ++ chunk).length = ended.length + left.length := by
        rw [hb, List.length_append]
      obtain ⟨lines, rest, r⟩ := ih ⟨by omega, hleft⟩
      exact ⟨_, _, readsAs_short hs hb he hleft r⟩
    · exact ⟨_, _, readsAs_long hl chunks⟩

/-! ## Cuttings of a stream -/

/-- Two cuttings of a stream lead to the same frames, and so do all pieces that follow them. -/
def Alike (cs₁ cs₂ : List Bytes) : Prop :=
  (initial.feedAll cs₁).2.flatten = (initial.feedAll cs₂).2.flatten ∧
    ∀ more, ((initial.feedAll cs₁).1.feedAll more).2 = ((initial.feedAll cs₂).1.feedAll more).2

theorem Alike.symm {cs₁ cs₂ : List Bytes} (h : Alike cs₁ cs₂) : Alike cs₂ cs₁ :=
  ⟨h.1.symm, fun more => (h.2 more).symm⟩

theorem Alike.trans {cs₁ cs₂ cs₃ : List Bytes} (h₁ : Alike cs₁ cs₂) (h₂ : Alike cs₂ cs₃) :
    Alike cs₁ cs₃ :=
  ⟨h₁.1.trans h₂.1, fun more => (h₁.2 more).trans (h₂.2 more)⟩

/-- **Cuttings that look for the mark at the same place are alike.** -/
theorem alike_of_markPlace {cs₁ cs₂ : List Bytes} (h : cs₁.flatten = cs₂.flatten)
    (hp : initial.markPlace cs₁ = initial.markPlace cs₂) : Alike cs₁ cs₂ := by
  obtain ⟨lines₁, rest₁, r₁⟩ := exists_readsAs undecided_nil cs₁
  obtain ⟨lines₂, rest₂, r₂⟩ := exists_readsAs undecided_nil cs₂
  have hlen : lines₁.length = lines₂.length := by
    rw [← r₁.place, ← r₂.place]; exact hp
  obtain ⟨rfl, rfl⟩ : lines₁ = lines₂ ∧ rest₁ = rest₂ :=
    List.append_inj (by rw [← r₁.bytes, ← r₂.bytes, h]) hlen
  exact ⟨r₁.frames.trans r₂.frames.symm, fun more =>
    congrArg (fun d => (feedAll d more).2) (r₁.state.trans r₂.state.symm)⟩

/-! ## Early cuts -/

/-- A cut after these bytes comes too early: a line has ended, and the mark is still looked for. -/
def EarlyCut (before : Bytes) : Prop := before.length < 3 ∧ lineFeed ∈ before

/-- One of the cuts comes too early. -/
def CutEarly (cs : List Bytes) : Prop := ∃ k < cs.length, EarlyCut (cs.take k).flatten

/-- Without an early cut the place for the mark is that of the bytes in one piece. -/
theorem markPlace_flatten {buffer : Bytes} (hb : Undecided buffer) {cs : List Bytes}
    (h : ∀ k < cs.length, ¬ EarlyCut (buffer ++ (cs.take k).flatten)) :
    (looking buffer).markPlace cs = (looking buffer).markPlace [cs.flatten] := by
  induction cs generalizing buffer with
  | nil =>
    rw [List.flatten_nil, markPlace_short (by simpa using hb.1)
      (show buffer ++ [] = [] ++ buffer by simp) .nil hb.2]
    rfl
  | cons chunk chunks ih =>
    rcases Nat.lt_or_ge (buffer ++ chunk).length 3 with hs | hl
    · rcases chunks with _ | ⟨next, chunks⟩
      · rw [List.flatten_singleton]
      have hcut : lineFeed ∉ buffer ++ chunk := by
        have := h 1 (by simp)
        simp only [List.take_succ_cons, List.take_zero, List.flatten_singleton] at this
        exact fun hm => this ⟨hs, hm⟩
      have hone : (looking (buffer ++ chunk)).markPlace [(next :: chunks).flatten] =
          (looking buffer).markPlace [chunk ++ (next :: chunks).flatten] := by
        rw [markPlace_one, markPlace_one buffer, List.append_assoc]
      rw [markPlace_short hs (List.nil_append _).symm .nil hcut, List.length_nil, Nat.zero_add,
        ih ⟨hs, hcut⟩ ?_, hone, ← List.flatten_cons]
      intro k hk
      have := h (k + 1) (by simpa using hk)
      rwa [List.take_succ_cons, List.flatten_cons, ← List.append_assoc] at this
    · rw [markPlace_long hl, markPlace_long]
      simp only [List.flatten_cons, List.length_append] at hl ⊢
      omega

/-- **Without early cuts, a cutting is like the stream in one piece.** -/
theorem alike_of_not_cutEarly {cs : List Bytes} (h : ¬ CutEarly cs) : Alike cs [cs.flatten] :=
  alike_of_markPlace (by simp) (markPlace_flatten undecided_nil fun k hk he => h ⟨k, hk, he⟩)

end LightningLottery.FrameDecoder
