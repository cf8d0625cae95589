/-
  ASCII in bytes that are read as text, whatever they are.

  * `Utf8.step_append_char`, `Utf8.step_append_illFormed`, `Utf8.step_append_cutShort`: what the
    front of some bytes is read as when more bytes follow.
  * `Utf8.lossyChars_append`: a text is read in two parts, before a byte of ASCII and behind it.
  * `Utf8.lossyChars_eq_append_iff`: a character of ASCII stands where its byte stands.
  * `Utf8.lossyChars_utf8_append`, `Utf8.lossyChars_utf8`: reading undoes writing.
-/
import LightningLottery.Proofs.Text.Utf8

namespace LightningLottery.Utf8

/-! ## One step -/

/-- What follows a character has no part in it. -/
theorem step_append_char {xs rest : Bytes} {c : Char} (h : step xs = .char c rest) (zs : Bytes) :
    step (xs ++ zs) = .char c (rest ++ zs) := by
  revert h
  fun_cases step xs
  all_goals intro h; cases h
  all_goals simp +zetaDelta [step, *]

theorem step_append_illFormed {xs rest : Bytes} {n : Nat} (h : step xs = .illFormed n rest)
    (zs : Bytes) : step (xs ++ zs) = .illFormed n (rest ++ zs) := by
  revert h
  fun_cases step xs
  all_goals intro h; cases h
  all_goals simp [step, *]

/-- A byte that fits second is a continuation byte, and some lead bytes ask for more. -/
theorem isTail_of_secondFits {b c : UInt8} (h : secondFits b c = true) :
    isTail c = true ∧ (b.toNat = 0xE0 → 0xA0 ≤ c.toNat) ∧ (b.toNat = 0xED → c.toNat ≤ 0x9F) ∧
      (b.toNat = 0xF0 → 0x90 ≤ c.toNat) ∧ (b.toNat = 0xF4 → c.toNat ≤ 0x8F) := by
  rw [isTail_iff]
  simp only [secondFits, isTail, beq_iff_eq, ← UInt8.toNat_inj] at h
  have hand {p q : Prop} [Decidable p] [Decidable q] (h : (decide p && decide q) = true) :
      p ∧ q := by simpa using h
  split_ifs at h with h1 h2 h3 h4
  all_goals
    obtain ⟨hlow, hhigh⟩ := hand h
    rw [UInt8.le_iff_toNat_le] at hlow hhigh
    simp at *
    omega

/-- A character that the end of the bytes cuts short is ill-formed if ASCII follows. -/
theorem step_append_cutShort {xs : Bytes} (h : step xs = .cutShort) {b : UInt8}
    (hb : b.toNat < 128) (zs : Bytes) : step (xs ++ b :: zs) = .illFormed xs.length (b :: zs) := by
  have htail : isTail b = false := by
    rw [← Bool.not_eq_true, isTail_iff]
    omega
  have hsecond (lead : UInt8) : secondFits lead b = false := by
    rw [← Bool.not_eq_true]
    intro hfits
    rw [(isTail_of_secondFits hfits).1] at htail
    cases htail
  revert h
  fun_cases step xs
  all_goals intro h; cases h
  all_goals simp [step, *]

theorem toNat_charOfNat {n : Nat} (h : n < 0xD800 ∨ 0xDFFF < n ∧ n < 0x110000) :
    (Char.ofNat n).toNat = n := by
  have hvalid : n.isValidChar := h
  rw [Char.ofNat, dif_pos hvalid]
  rfl

/-- The lead bytes by what they call for. -/
theorem range_of_owed {b : UInt8} {n : Nat} (h : owed b = some n) :
    (n = 1 ∧ 194 ≤ b.toNat ∧ b.toNat ≤ 223) ∨ (n = 2 ∧ 224 ≤ b.toNat ∧ b.toNat ≤ 239) ∨
      n = 3 ∧ 240 ≤ b.toNat ∧ b.toNat ≤ 244 := by
  rw [owed_eq] at h
  split_ifs at h with h1 h2 h3 <;> cases h
  · exact Or.inl ⟨rfl, h1⟩
  · exact Or.inr (Or.inl ⟨rfl, h2⟩)
  · exact Or.inr (Or.inr ⟨rfl, h3⟩)

/-- A character of ASCII is read off its own byte: no other character is that small, for overlong
    forms and surrogates are none. -/
theorem eq_of_step_ascii {bs rest : Bytes} {c : Char} (h : step bs = .char c rest)
    (hc : c.toNat < 128) : bs = UInt8.ofNat c.toNat :: rest := by
  revert h
  fun_cases step bs
  all_goals intro h; cases h
  case case2 b hb =>
    have hb : b.toNat < 128 := UInt8.lt_iff_toNat_lt.1 hb
    rw [toNat_charOfNat (Or.inl (by omega)), UInt8.ofNat_toNat]
  case case6 b _ n d ho hfits hn =>
    have hlead := range_of_owed ho
    have hsecond := isTail_of_secondFits (by simpa using hfits)
    rw [isTail_iff] at hsecond
    simp only [beq_iff_eq, low6] at hn hc
    rw [toNat_charOfNat (Or.inl (by omega))] at hc
    omega
  case case9 b _ n d ho hfits hn e he hn2 =>
    have hlead := range_of_owed ho
    have hsecond := isTail_of_secondFits (by simpa using hfits)
    rw [isTail_iff] at hsecond
    simp only [beq_iff_eq, low6] at hn2 hc
    rw [toNat_charOfNat (by omega)] at hc
    omega
  case case12 b _ n d ho hfits hn e he hn2 f hf code =>
    have hlead := range_of_owed ho
    have hsecond := isTail_of_secondFits (by simpa using hfits)
    rw [isTail_iff] at hsecond
    simp only [beq_iff_eq, code, low6] at hn hn2 hc
    rw [toNat_charOfNat (by omega)] at hc
    omega

/-! ## Texts -/

theorem lossyChars_nil : lossyChars [] = [] := by
  rw [lossyChars]
  rfl

theorem lossyChars_of_char {bs rest : Bytes} {c : Char} (h : step bs = .char c rest) :
    lossyChars bs = c :: lossyChars rest := by
  rw [lossyChars]
  split <;> simp_all

theorem lossyChars_of_illFormed {bs rest : Bytes} {n : Nat} (h : step bs = .illFormed n rest) :
    lossyChars bs = replacement :: lossyChars rest := by
  rw [lossyChars]
  split <;> simp_all

theorem lossyChars_ascii {b : UInt8} (hb : b.toNat < 128) (rest : Bytes) :
    lossyChars (b :: rest) = Char.ofNat b.toNat :: lossyChars rest :=
  lossyChars_of_char (step_one hb rest)

theorem lossyChars_utf8_append (cs : List Char) (bs : Bytes) :
    lossyChars (utf8 (String.ofList cs) ++ bs) = cs ++ lossyChars bs := by
  rw [utf8, String.toList_ofList]
  induction cs with
  | nil => rfl
  | cons c cs ih =>
    rw [List.flatMap_cons, List.append_assoc, lossyChars_of_char (step_encode c _), ih,
      List.cons_append]

theorem lossyChars_utf8 (cs : List Char) : lossyChars (utf8 (String.ofList cs)) = cs := by
  have hread := lossyChars_utf8_append cs []
  rwa [List.append_nil, lossyChars_nil, List.append_nil] at hread

theorem eq_nil_of_step_done {bs : Bytes} (h : step bs = .done) : bs = [] := by
  revert h
  fun_cases step bs
  all_goals simp

theorem eq_nil_of_lossyChars {bs : Bytes} (h : lossyChars bs = []) : bs = [] := by
  rw [lossyChars] at h
  split at h
  · next hdone => exact eq_nil_of_step_done hdone
  · cases h
  · cases h
  · cases h

/-- **A text is read in two parts**, before a byte of ASCII and behind it. -/
theorem lossyChars_append (xs : Bytes) {b : UInt8} (hb : b.toNat < 128) (ys : Bytes) :
    lossyChars (xs ++ b :: ys) = lossyChars xs ++ Char.ofNat b.toNat :: lossyChars ys := by
  fun_induction lossyChars xs with
  | case1 xs hdone =>
    rw [eq_nil_of_step_done hdone, List.nil_append, List.nil_append, lossyChars_ascii hb]
  | case2 xs c rest hchar _ ih =>
    rw [lossyChars_of_char (step_append_char hchar _), ih, List.cons_append]
  | case3 xs n rest hill _ ih =>
    rw [lossyChars_of_illFormed (step_append_illFormed hill _), ih, List.cons_append]
  | case4 xs hcut =>
    rw [lossyChars_of_illFormed (step_append_cutShort hcut hb ys), lossyChars_ascii hb]
    rfl

theorem suffix_of_step {bs rest : Bytes}
    (h : (∃ c, step bs = .char c rest) ∨ ∃ n, step bs = .illFormed n rest) : rest <:+ bs := by
  rcases h with ⟨c, h⟩ | ⟨n, h⟩
  all_goals
    revert h
    fun_cases step bs
    all_goals intro h; cases h
    all_goals simp [List.suffix_cons_iff]

/-- A character of ASCII in a text has its byte there. -/
theorem exists_of_lossyChars_eq {bs : Bytes} {cs ds : List Char} {c : Char} (hc : c.toNat < 128)
    (h : lossyChars bs = cs ++ c :: ds) :
    ∃ xs ys, bs = xs ++ UInt8.ofNat c.toNat :: ys ∧ lossyChars ys = ds := by
  have hne : replacement ≠ c := by
    rintro rfl
    exact absurd hc (by decide)
  fun_induction lossyChars bs generalizing cs with
  | case1 => simp at h
  | case2 bs d rest hchar _ ih =>
    rcases List.cons_eq_append_iff.1 h with ⟨rfl, hcd⟩ | ⟨cs', rfl, hrest⟩
    · obtain ⟨rfl, rfl⟩ := List.cons.inj hcd
      exact ⟨[], rest, eq_of_step_ascii hchar hc, rfl⟩
    · obtain ⟨xs, ys, rfl, hys⟩ := ih hrest
      obtain ⟨front, rfl⟩ := suffix_of_step (Or.inl ⟨d, hchar⟩)
      exact ⟨front ++ xs, ys, (List.append_assoc ..).symm, hys⟩
  | case3 bs n rest hill _ ih =>
    rcases List.cons_eq_append_iff.1 h with ⟨rfl, hcd⟩ | ⟨cs', rfl, hrest⟩
    · exact absurd (List.cons.inj hcd).1.symm hne
    · obtain ⟨xs, ys, rfl, hys⟩ := ih hrest
      obtain ⟨front, rfl⟩ := suffix_of_step (Or.inr ⟨n, hill⟩)
      exact ⟨front ++ xs, ys, (List.append_assoc ..).symm, hys⟩
  | case4 bs hcut =>
    rcases List.cons_eq_append_iff.1 h with ⟨rfl, hcd⟩ | ⟨cs', rfl, hrest⟩
    · exact absurd (List.cons.inj hcd).1.symm hne
    · simp at hrest

/-- **A character of ASCII stands in a text where its byte stands.** -/
theorem lossyChars_eq_append_iff {bs : Bytes} {cs ds : List Char} {c : Char} (hc : c.toNat < 128) :
    lossyChars bs = cs ++ c :: ds ↔
      ∃ xs ys, bs = xs ++ UInt8.ofNat c.toNat :: ys ∧ lossyChars xs = cs ∧
        lossyChars ys = ds := by
  have hsplit (xs ys : Bytes) : lossyChars (xs ++ UInt8.ofNat c.toNat :: ys) =
      lossyChars xs ++ c :: lossyChars ys := by
    have hb := toNat_ofNat (show c.toNat < 256 by omega)
    rw [lossyChars_append xs (by rwa [hb]), hb, Char.ofNat_toNat]
  constructor
  · intro h
    obtain ⟨xs, ys, rfl, rfl⟩ := exists_of_lossyChars_eq hc h
    rw [hsplit] at h
    exact ⟨xs, ys, rfl, List.append_cancel_right h, rfl⟩
  · rintro ⟨xs, ys, rfl, rfl, rfl⟩
    exact hsplit xs ys

theorem mem_lossyChars_iff {bs : Bytes} {c : Char} (hc : c.toNat < 128) :
    c ∈ lossyChars bs ↔ UInt8.ofNat c.toNat ∈ bs := by
  rw [List.mem_iff_append, List.mem_iff_append]
  constructor
  · rintro ⟨cs, ds, h⟩
    obtain ⟨xs, ys, hbs, -, -⟩ := (lossyChars_eq_append_iff hc).1 h
    exact ⟨xs, ys, hbs⟩
  · rintro ⟨xs, ys, h⟩
    exact ⟨_, _, (lossyChars_eq_append_iff hc).2 ⟨xs, ys, h, rfl, rfl⟩⟩

end LightningLottery.Utf8
