/-
  Texts that are written between quotes and read again.

  * `Json.Spells`: bytes between quotes that are read as others, whatever follows.
  * `Json.spells_escaped`: a character, escaped where it has to be, is read as its own bytes.
  * `Json.readText_spelled`, `Json.skipText_spelled`: a text is read as what was written, and
    reading goes on behind its closing quote.
-/
import LightningLottery.Json.Literal
import LightningLottery.Proofs.Steps
import LightningLottery.Proofs.Text.Utf8

namespace LightningLottery.Json

/-- The bytes of characters. -/
def bytesOf (cs : List Char) : Bytes := cs.flatMap String.utf8EncodeChar

@[simp] theorem bytesOf_append (a b : List Char) : bytesOf (a ++ b) = bytesOf a ++ bytesOf b :=
  List.flatMap_append

theorem bytesOf_cons (c : Char) (cs : List Char) :
    bytesOf (c :: cs) = String.utf8EncodeChar c ++ bytesOf cs := rfl

theorem bytesOf_ascii {c : Char} (h : c.toNat < 128) (cs : List Char) :
    bytesOf (c :: cs) = byte c :: bytesOf cs := by
  rw [bytesOf_cons, Utf8.encode_ascii h]
  rfl

/-- Bytes between quotes that are read as others, whatever follows; a unit of fuel for each of them
    is enough. -/
structure Spells (written bytes : Bytes) : Prop where
  read : ∀ fuel rest, written.length ≤ fuel → ∃ left, fuel ≤ left + written.length ∧
    readTextBytes fuel (written ++ rest) = (readTextBytes left rest).map (bytes ++ ·)
  skip : ∀ fuel rest, written.length ≤ fuel → ∃ left, fuel ≤ left + written.length ∧
    skipTextBytes fuel (written ++ rest) = skipTextBytes left rest

namespace Spells

theorem nil : Spells [] [] where
  read fuel rest _ := by
    refine ⟨fuel, Nat.le_refl _, ?_⟩
    cases h : readTextBytes fuel rest <;> simp [h, Except.map]
  skip fuel rest _ := ⟨fuel, Nat.le_refl _, rfl⟩

theorem append {v w a b : Bytes} (hv : Spells v a) (hw : Spells w b) :
    Spells (v ++ w) (a ++ b) where
  read fuel rest h := by
    rw [List.length_append] at h
    obtain ⟨middle, hmiddle, hfirst⟩ := hv.read fuel (w ++ rest) (by omega)
    obtain ⟨left, hleft, hsecond⟩ := hw.read middle rest (by omega)
    refine ⟨left, by rw [List.length_append]; omega, ?_⟩
    rw [List.append_assoc, hfirst, hsecond]
    cases readTextBytes left rest <;> simp [Except.map]
  skip fuel rest h := by
    rw [List.length_append] at h
    obtain ⟨middle, hmiddle, hfirst⟩ := hv.skip fuel (w ++ rest) (by omega)
    obtain ⟨left, hleft, hsecond⟩ := hw.skip middle rest (by omega)
    refine ⟨left, by rw [List.length_append]; omega, ?_⟩
    rw [List.append_assoc, hfirst, hsecond]

/-- A byte that is no quote, no backslash and no control character stands for itself. -/
theorem plain {b : UInt8} (hquote : b ≠ byte '"') (hslash : b ≠ byte '\\')
    (hprint : firstPrintable ≤ b) : Spells [b] [b] where
  read fuel rest h := by
    obtain ⟨left, rfl⟩ : ∃ left, fuel = left + 1 := ⟨fuel - 1, by simp at h; omega⟩
    refine ⟨left, Nat.le_refl _, ?_⟩
    have hlt : ¬ b < firstPrintable := UInt8.not_lt.2 hprint
    simp only [List.singleton_append, readTextBytes, beq_iff_eq, hquote, hslash, hlt, if_false]
    cases readTextBytes left rest <;> rfl
  skip fuel rest h := by
    obtain ⟨left, rfl⟩ : ∃ left, fuel = left + 1 := ⟨fuel - 1, by simp at h; omega⟩
    refine ⟨left, Nat.le_refl _, ?_⟩
    have hlt : ¬ b < firstPrintable := UInt8.not_lt.2 hprint
    simp only [List.singleton_append, skipTextBytes, beq_iff_eq, hquote, hslash, hlt, if_false]

/-- A backslash and an escape stand for what the escape stands for. -/
theorem escape {w bytes : Bytes} (hread : ∀ rest, readEscape (w ++ rest) = .ok (bytes, rest))
    (hskip : ∀ rest, skipEscape (w ++ rest) = .ok rest) : Spells (byte '\\' :: w) bytes where
  read fuel rest h := by
    obtain ⟨left, rfl⟩ : ∃ left, fuel = left + 1 := ⟨fuel - 1, by simp at h; omega⟩
    refine ⟨left, by simp, ?_⟩
    have hquote : (byte '\\' == byte '"') = false := by decide
    simp only [List.cons_append, readTextBytes, hquote, beq_self_eq_true, hread, if_true,
      Bool.false_eq_true, if_false]
    show (readTextBytes left rest >>= fun more => pure (bytes ++ more)) = _
    cases readTextBytes left rest <;> rfl
  skip fuel rest h := by
    obtain ⟨left, rfl⟩ : ∃ left, fuel = left + 1 := ⟨fuel - 1, by simp at h; omega⟩
    refine ⟨left, by simp, ?_⟩
    have hquote : (byte '\\' == byte '"') = false := by decide
    simp only [List.cons_append, skipTextBytes, hquote, beq_self_eq_true, hskip, if_true,
      Bool.false_eq_true, if_false]
    rfl

theorem ofBytes {w : Bytes} (h : ∀ b ∈ w, Spells [b] [b]) : Spells w w := by
  induction w with
  | nil => exact nil
  | cons b w ih =>
    exact (h b List.mem_cons_self).append (ih fun c hc => h c (List.mem_cons_of_mem _ hc))

theorem flatMap {α : Type} {f g : α → Bytes} (h : ∀ a, Spells (f a) (g a)) (as : List α) :
    Spells (as.flatMap f) (as.flatMap g) := by
  induction as with
  | nil => exact nil
  | cons a as ih => exact (h a).append ih

end Spells

/-! ## Characters -/

theorem fourDigits_append {w : Bytes} {n : Nat} (h : fourDigits w = .ok (n, [])) (rest : Bytes) :
    fourDigits (w ++ rest) = .ok (n, rest) := by
  unfold fourDigits at h
  split at h
  · next a b c d tail =>
    split at h
    · next ha hb hc hd =>
      cases h
      simp only [List.cons_append, List.nil_append, fourDigits, ha, hb, hc, hd]
    · cases h
  · cases h

theorem spells_number {w : Bytes} {n : Nat} (h : fourDigits w = .ok (n, [])) (hn : n < 0xD800) :
    Spells (byte '\\' :: byte 'u' :: w) (String.utf8EncodeChar (Char.ofNat n)) := by
  have hsimple : simpleEscape? (byte 'u') = none := by decide
  refine Spells.escape (fun rest => ?_) (fun rest => ?_)
  · have hlow : ¬ (0xDC00 ≤ n ∧ n ≤ 0xDFFF) := by omega
    have hhigh : ¬ (0xD800 ≤ n ∧ n ≤ 0xDBFF) := by omega
    have hpoint : codePoint (w ++ rest) = .ok (n, rest) := by
      refine bind_eq_ok_iff.2 ⟨(n, rest), fourDigits_append h rest, ?_⟩
      simp only [hlow, hhigh, if_false, Bool.and_eq_true, decide_eq_true_eq]
      rfl
    simp only [List.cons_append, readEscape, hsimple, beq_self_eq_true, if_true, hpoint]
    rfl
  · simp only [List.cons_append, skipEscape, hsimple, beq_self_eq_true, if_true,
      fourDigits_append h rest]
    rfl

theorem spells_letter (letter : Char) {c : Char} {b : UInt8}
    (h : simpleEscape? (byte letter) = some b) (hletter : letter.toNat < 128)
    (hc : String.utf8EncodeChar c = [b]) :
    Spells (bytesOf ['\\', letter]) (String.utf8EncodeChar c) := by
  have hwritten : bytesOf ['\\', letter] = [byte '\\', byte letter] := by
    rw [bytesOf_ascii (by decide), bytesOf_ascii hletter]
    rfl
  rw [hwritten, hc]
  refine Spells.escape (fun rest => ?_) (fun rest => ?_)
  · simp only [List.cons_append, List.nil_append, readEscape, h]
  · simp only [List.cons_append, List.nil_append, skipEscape, h]

theorem fourDigits_control : ∀ n < 32,
    (fourDigits (bytesOf (zeroPadded 4 (hexDigitsOf n)))).toOption = some (n, []) := by
  decide +kernel

theorem spells_plain {c : Char} (hquote : c ≠ '"') (hslash : c ≠ '\\') (hprint : 32 ≤ c.toNat) :
    Spells (String.utf8EncodeChar c) (String.utf8EncodeChar c) := by
  by_cases hascii : c.toNat < 128
  · have hne {d : Char} (hd : d.toNat < 128) (h : c ≠ d) :
        UInt8.ofNat c.toNat ≠ byte d := by
      intro heq
      have hnat := congrArg UInt8.toNat heq
      rw [byte, Utf8.toNat_ofNat (by omega), Utf8.toNat_ofNat (by omega)] at hnat
      exact h (Char.toNat_inj.1 hnat)
    rw [Utf8.encode_ascii hascii]
    refine Spells.plain (hne (by decide) hquote) (hne (by decide) hslash) ?_
    rw [UInt8.le_iff_toNat_le, Utf8.toNat_ofNat (by omega)]
    exact hprint
  · -- beyond ASCII no byte is one of those
    have hbytes : ∀ b ∈ String.utf8EncodeChar c, Spells [b] [b] := by
      intro b hb
      have hle := Utf8.le_of_mem_encode (by omega) hb
      refine Spells.plain ?_ ?_ (UInt8.le_iff_toNat_le.2 (Nat.le_trans (by decide) hle)) <;>
      · rintro rfl
        exact absurd hle (by decide)
    exact Spells.ofBytes hbytes

/-- **A character is read as its own bytes**, escaped where it has to be. -/
theorem spells_escaped (c : Char) :
    Spells (bytesOf (escaped c)) (String.utf8EncodeChar c) := by
  have hchar {n : Nat} (h : c.toNat = n) : c = Char.ofNat n := by rw [← h, Char.ofNat_toNat]
  unfold escaped
  split_ifs with hquote hslash h8 h9 h10 h12 h13 hcontrol
  · exact spells_letter '"' rfl (by decide) (by rw [hquote]; rfl)
  · exact spells_letter '\\' rfl (by decide) (by rw [hslash]; rfl)
  · exact spells_letter 'b' rfl (by decide) (by rw [hchar h8]; rfl)
  · exact spells_letter 't' rfl (by decide) (by rw [hchar h9]; rfl)
  · exact spells_letter 'n' rfl (by decide) (by rw [hchar h10]; rfl)
  · exact spells_letter 'f' rfl (by decide) (by rw [hchar h12]; rfl)
  · exact spells_letter 'r' rfl (by decide) (by rw [hchar h13]; rfl)
  · have hdigits := toOption_eq_some_iff.1 (fourDigits_control c.toNat hcontrol)
    have hspells := spells_number hdigits (by omega)
    rw [Char.ofNat_toNat] at hspells
    exact hspells
  · rw [bytesOf_cons, bytesOf, List.flatMap_nil, List.append_nil]
    exact spells_plain hquote hslash (by omega)

/-! ## Texts -/

/-- The bytes of a text between its quotes. -/
def spelled (s : String) : Bytes := bytesOf (s.toList.flatMap escaped)

theorem spells_spelled (s : String) : Spells (spelled s) (utf8 s) := by
  rw [spelled, bytesOf, utf8, List.flatMap_assoc]
  exact Spells.flatMap spells_escaped s.toList

theorem bytesOf_literal (s : String) :
    bytesOf (literal s) = byte '"' :: spelled s ++ [byte '"'] := by
  rw [literal, bytesOf_append, bytesOf_ascii (by decide)]
  rfl

/-- **A text is read as what was written.** -/
theorem readText_spelled (s : String) (rest : Bytes) :
    readText (spelled s ++ byte '"' :: rest) = .ok s := by
  -- there is fuel left for the closing quote
  obtain ⟨left, hleft, hread⟩ := (spells_spelled s).read
    ((spelled s ++ byte '"' :: rest).length + 1) (byte '"' :: rest)
    (by rw [List.length_append]; omega)
  rw [List.length_append, List.length_cons] at hleft
  obtain ⟨fuel, rfl⟩ : ∃ fuel, left = fuel + 1 := ⟨left - 1, by omega⟩
  rw [readText, hread]
  simp only [readTextBytes, beq_self_eq_true, if_true, Except.map, List.append_nil, bind,
    Except.bind, Utf8.decode_utf8]

/-- **Reading goes on behind the closing quote** of a text. -/
theorem skipText_spelled (s : String) (rest : Bytes) :
    skipText (spelled s ++ byte '"' :: rest) = .ok rest := by
  obtain ⟨left, hleft, hskip⟩ := (spells_spelled s).skip
    ((spelled s ++ byte '"' :: rest).length + 1) (byte '"' :: rest)
    (by rw [List.length_append]; omega)
  rw [List.length_append, List.length_cons] at hleft
  obtain ⟨fuel, rfl⟩ : ∃ fuel, left = fuel + 1 := ⟨left - 1, by omega⟩
  rw [skipText, hskip]
  simp only [skipTextBytes, beq_self_eq_true, if_true]

end LightningLottery.Json
