/-
  Names and values in the query of a URL, written and read again.

  * `Percent.decode_triples`: bytes are read from their triples.
  * `Form.decode_encode`: a text is read as what was written.
  * `Form.read_write`: so are all names and values, in their order.
  * `Form.mem_write`: what a query is written with.
-/
import Mathlib
import LightningLottery.Proofs.Text.Hex
import LightningLottery.Proofs.Text.Lossy
import LightningLottery.Proofs.Text.Split
import LightningLottery.Url.Form

namespace LightningLottery

namespace Percent

theorem decode_cons {b : UInt8} (h : b ≠ 0x25) (rest : Bytes) :
    decode (b :: rest) = b :: decode rest := by
  rw [decode]
  rintro hi lo rest' rfl
  exact absurd rfl h

theorem capital_spec : ∀ n < 16, hexValue? (hexDigit n).toUpper = some n ∧
    (hexDigit n).toUpper.toNat < 128 ∧
    (hexDigit n).toUpper ∉ ['+', '&', '=', '/', '?', '#'] := by decide

theorem encode_triple (b : UInt8) :
    (triple b).flatMap String.utf8EncodeChar =
      [0x25, UInt8.ofNat (hexDigit (b.toNat / 16)).toUpper.toNat,
        UInt8.ofNat (hexDigit (b.toNat % 16)).toUpper.toNat] := by
  obtain ⟨hhigh, hlow⟩ := hexByte_digits b
  rw [triple, hexByte, List.map_cons, List.map_cons, List.map_nil, List.flatMap_cons,
    List.flatMap_cons, List.flatMap_cons, List.flatMap_nil, Utf8.encode_ascii (by decide),
    Utf8.encode_ascii (capital_spec _ hhigh).2.1, Utf8.encode_ascii (capital_spec _ hlow).2.1]
  rfl

theorem digit?_ofNat {c : Char} (h : c.toNat < 128) :
    digit? (UInt8.ofNat c.toNat) = hexValue? c := by
  rw [digit?, Utf8.toNat_ofNat (by omega), Char.ofNat_toNat]

/-- **Bytes are read from their triples.** -/
theorem decode_triples (bs rest : Bytes) :
    decode ((bs.flatMap triple).flatMap String.utf8EncodeChar ++ rest) = bs ++ decode rest := by
  induction bs with
  | nil => rfl
  | cons b bs ih =>
    obtain ⟨hhigh, hlow⟩ := hexByte_digits b
    have hvalue : b.toNat / 16 * 16 + b.toNat % 16 = b.toNat := by omega
    rw [List.flatMap_cons, List.flatMap_append, encode_triple, List.append_assoc, List.cons_append,
      List.cons_append, List.singleton_append, decode, digit?_ofNat (capital_spec _ hhigh).2.1,
      digit?_ofNat (capital_spec _ hlow).2.1, (capital_spec _ hhigh).1, (capital_spec _ hlow).1]
    simp only [hvalue, UInt8.ofNat_toNat, ih, List.cons_append]

theorem mem_triples {bs : Bytes} {c : Char} (h : c ∈ bs.flatMap triple) :
    c = '%' ∨ ∃ n < 16, c = (hexDigit n).toUpper := by
  obtain ⟨b, -, hc⟩ := List.mem_flatMap.1 h
  obtain ⟨hhigh, hlow⟩ := hexByte_digits b
  rw [triple, hexByte, List.map_cons, List.map_cons, List.map_nil, List.mem_cons, List.mem_pair] at hc
  rcases hc with rfl | rfl | rfl
  · exact Or.inl rfl
  · exact Or.inr ⟨_, hhigh, rfl⟩
  · exact Or.inr ⟨_, hlow, rfl⟩

/-- No triple holds a sign that separates something. -/
theorem notMem_triples {bs : Bytes} {c : Char} (h : c ∈ bs.flatMap triple) :
    c ∉ ['+', '&', '=', '/', '?', '#'] := by
  rcases mem_triples h with rfl | ⟨n, hn, rfl⟩
  · decide
  · exact (capital_spec n hn).2.2

end Percent

namespace Form

theorem isPlain_spec {c : Char} (h : isPlain c = true) :
    c.toNat < 128 ∧ c ∉ ['%', '+', '&', '=', '/'] := by
  constructor
  · simp only [isPlain, Char.isAlphanum, Char.isAlpha, Char.isUpper, Char.isLower, Char.isDigit,
      Bool.or_eq_true, Bool.and_eq_true, decide_eq_true_eq, beq_iff_eq, ge_iff_le,
      UInt32.le_iff_toNat_le] at h
    rcases h with (((((⟨-, h⟩ | ⟨-, h⟩) | ⟨-, h⟩) | rfl) | rfl) | rfl) | rfl
    · exact Nat.lt_of_le_of_lt h (by decide)
    · exact Nat.lt_of_le_of_lt h (by decide)
    · exact Nat.lt_of_le_of_lt h (by decide)
    all_goals decide
  · intro hm
    simp only [List.mem_cons, List.not_mem_nil, or_false] at hm
    rcases hm with rfl | rfl | rfl | rfl | rfl <;> exact absurd h (by decide)

theorem isPlain_capital : ∀ n < 16, isPlain (hexDigit n).toUpper = true := by decide

/-- What reading takes a character for: a plus sign is a space. -/
def spaced (c : Char) : Char := if c == '+' then ' ' else c

theorem map_spaced {cs : List Char} (h : '+' ∉ cs) : cs.map spaced = cs := by
  refine (List.map_congr_left fun c hc => if_neg fun he => h ?_).trans (List.map_id cs)
  rwa [← beq_iff_eq.1 he]

theorem decode_encodeChar (c : Char) (rest : Bytes) :
    Percent.decode (((encodeChar c).map spaced).flatMap String.utf8EncodeChar ++ rest) =
      String.utf8EncodeChar c ++ Percent.decode rest := by
  unfold encodeChar
  split
  · next hspace =>
    rw [beq_iff_eq.1 hspace]
    exact Percent.decode_cons (by decide) rest
  · split
    · next hplain =>
      obtain ⟨hascii, hsign⟩ := isPlain_spec hplain
      have hplus : c ≠ '+' := fun he => hsign (by rw [he]; decide)
      have hbyte : UInt8.ofNat c.toNat ≠ 0x25 := by
        intro he
        have hnat := congrArg UInt8.toNat he
        rw [Utf8.toNat_ofNat (by omega)] at hnat
        have hpercent : c = '%' := Char.toNat_inj.1 hnat
        exact hsign (by rw [hpercent]; decide)
      rw [map_spaced (by rw [List.mem_singleton]; exact hplus.symm), List.flatMap_singleton,
        Utf8.encode_ascii hascii]
      exact Percent.decode_cons hbyte rest
    · rw [map_spaced fun hm => Percent.notMem_triples hm (by decide), Percent.decode_triples]

/-- **A text is read as what was written.** -/
theorem decode_encode (s : String) : decode (encode s) = s := by
  have hchars : ∀ cs : List Char,
      Percent.decode (((cs.flatMap encodeChar).map spaced).flatMap String.utf8EncodeChar) =
        utf8 (String.ofList cs) := by
    intro cs
    induction cs with
    | nil => rfl
    | cons c cs ih =>
      rw [List.flatMap_cons, List.map_append, List.flatMap_append, decode_encodeChar, ih, utf8, utf8,
        String.toList_ofList, String.toList_ofList, List.flatMap_cons]
  have hbytes := hchars s.toList
  rw [String.ofList_toList] at hbytes
  have hread := Utf8.lossyChars_utf8 s.toList
  rw [String.ofList_toList] at hread
  rw [decode, encode]
  show Utf8.decodeLossy
    (Percent.decode (((s.toList.flatMap encodeChar).map spaced).flatMap String.utf8EncodeChar)) = s
  rw [hbytes, Utf8.decodeLossy, hread, String.ofList_toList]

theorem mem_encode {s : String} {c : Char} (h : c ∈ encode s) :
    isPlain c = true ∨ c ∈ ['%', '+'] := by
  obtain ⟨d, -, hd⟩ := List.mem_flatMap.1 h
  unfold encodeChar at hd
  split at hd
  · rw [List.mem_singleton.1 hd]
    exact Or.inr (by decide)
  · split at hd
    · next hplain =>
      rw [List.mem_singleton.1 hd]
      exact Or.inl hplain
    · rcases Percent.mem_triples hd with rfl | ⟨n, hn, rfl⟩
      · exact Or.inr (by decide)
      · exact Or.inl (isPlain_capital n hn)

/-- No text is written with a sign that separates names and values. -/
theorem notMem_encode {s : String} {c : Char} (h : c ∈ encode s) : c ∉ ['&', '=', '/'] := by
  rcases mem_encode h with hplain | hsign
  · exact fun hm => (isPlain_spec hplain).2 (List.mem_cons_of_mem _ (List.mem_cons_of_mem _ hm))
  · rcases List.mem_pair.1 hsign with rfl | rfl <;> decide

theorem readPair_writePair (p : Pair) : readPair (writePair p) = p := by
  have hcut : splitFirst? '=' (writePair p) = some (encode p.1, encode p.2) :=
    splitFirst?_eq_some_iff.2 ⟨rfl, fun hm => notMem_encode hm (by decide)⟩
  simp only [readPair, hcut, decode_encode]

/-- **Names and values are read as what was written**, in their order. -/
theorem read_write (pairs : List Pair) : read (write pairs) = pairs := by
  cases pairs with
  | nil => rfl
  | cons first pairs =>
    have hseparator : ∀ piece ∈ (first :: pairs).map writePair, '&' ∉ piece := by
      intro piece hpiece hm
      obtain ⟨p, -, rfl⟩ := List.mem_map.1 hpiece
      rcases List.mem_append.1 hm with hname | hvalue
      · exact notMem_encode hname (by decide)
      · rcases List.mem_cons.1 hvalue with he | hvalue
        · cases he
        · exact notMem_encode hvalue (by decide)
    have hfull : ∀ piece ∈ (first :: pairs).map writePair, (!piece.isEmpty) = true := by
      intro piece hpiece
      obtain ⟨p, -, rfl⟩ := List.mem_map.1 hpiece
      simp [writePair]
    have hpairs : ((first :: pairs).map writePair).map readPair = first :: pairs := by
      rw [List.map_map]
      exact (List.map_congr_left fun p _ => readPair_writePair p).trans (List.map_id _)
    rw [read, write, splitOn_joinWith hseparator (List.cons_ne_nil _ _),
      List.filter_eq_self.2 hfull, hpairs]

theorem mem_writePair {p : Pair} {c : Char} (h : c ∈ writePair p) :
    isPlain c = true ∨ c ∈ ['%', '+', '=', '&'] := by
  have hencoded : ∀ {s : String}, c ∈ encode s → isPlain c = true ∨ c ∈ ['%', '+', '=', '&'] :=
    fun hs => (mem_encode hs).imp_right fun hm => List.mem_append_left ['=', '&'] hm
  rcases List.mem_append.1 h with hname | hvalue
  · exact hencoded hname
  · rcases List.mem_cons.1 hvalue with rfl | hvalue
    · exact Or.inr (by decide)
    · exact hencoded hvalue

/-- **What a query is written with**: besides what stands for itself, only signs of the form. -/
theorem mem_write {pairs : List Pair} {c : Char} (h : c ∈ write pairs) :
    isPlain c = true ∨ c ∈ ['%', '+', '=', '&'] := by
  rcases mem_joinWith h with rfl | ⟨piece, hpiece, hc⟩
  · exact Or.inr (by decide)
  · obtain ⟨p, -, rfl⟩ := List.mem_map.1 hpiece
    exact mem_writePair hc

end Form
end LightningLottery
