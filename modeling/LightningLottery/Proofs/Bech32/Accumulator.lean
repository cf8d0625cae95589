/-
  Bytes of words of five bits, read with an accumulator of 32 bits.

  * `WordReader`: the accumulator, the number of bits it holds, and the bytes that are complete.
  * `WordReader.Holds`: bytes and held bits are the bits of the words so far. `Holds.widened_spec`
    makes room for a word without losing a bit, `Holds.take` is one word, `readAll_holds` any number
    of them.
  * `WordReader.Holds.bytesOfWords_append`: what is held is all that counts for the words to come.
  * `bytesOfWords_whole_bytes`: the whole bytes of words, and the room that the accumulator has.
-/
import LightningLottery.Proofs.Bech32.Regrouping

namespace LightningLottery

/-! ## Words of 32 bits -/

theorem toNat_one_shiftLeft {n : UInt32} (h : n.toNat < 32) :
    ((1 : UInt32) <<< n).toNat = 2 ^ n.toNat := by
  have hpow : 2 ^ n.toNat < 2 ^ 32 := Nat.pow_lt_pow_right (by decide) h
  rw [UInt32.toNat_shiftLeft, UInt32.toNat_one, Nat.mod_eq_of_lt h, Nat.one_shiftLeft,
    Nat.mod_eq_of_lt hpow]

theorem toNat_and_mask (x : UInt32) {n : UInt32} (h : n.toNat < 32) :
    (x &&& ((1 <<< n) - 1)).toNat = x.toNat % 2 ^ n.toNat := by
  have hle : (1 : UInt32) ≤ 1 <<< n := by
    rw [UInt32.le_iff_toNat_le, toNat_one_shiftLeft h]
    exact Nat.two_pow_pos _
  rw [UInt32.toNat_and, UInt32.toNat_sub_of_le _ _ hle, toNat_one_shiftLeft h, UInt32.toNat_one,
    Nat.and_two_pow_sub_one_eq_mod]

theorem byteBits_shiftRight (x : UInt32) {n : UInt32} (h : n.toNat < 32) :
    byteBits (x >>> n).toUInt8 = lowBits 8 (x.toNat / 2 ^ n.toNat) := by
  rw [byteBits, UInt32.toNat_toUInt8, lowBits_mod (Nat.le_refl 8), UInt32.toNat_shiftRight,
    Nat.mod_eq_of_lt h, Nat.shiftRight_eq_div_pow]

/-! ## The accumulator -/

/-- What is kept between two words: the bits that make no whole byte yet, their number, and the
    bytes before them. -/
structure WordReader where
  acc : UInt32
  bits : UInt32
  out : Bytes

namespace WordReader

/-- No word has been read. -/
def start : WordReader := ⟨0, 0, []⟩

/-- The accumulator with a word behind what it holds. -/
def widened (r : WordReader) (w : Word) : UInt32 := r.acc <<< 5 ||| UInt32.ofNat w.toNat

/-- One more word: where eight bits are held, the first eight of them leave as a byte. -/
def take (r : WordReader) (w : Word) : WordReader :=
  let acc := r.widened w
  let bits := r.bits + 5
  if 8 ≤ bits then
    let left := bits - 8
    ⟨acc &&& ((1 <<< left) - 1), left, r.out ++ [(acc >>> left).toUInt8]⟩
  else ⟨acc, bits, r.out⟩

/-- Words, one after the other. -/
def readAll (ws : List Word) : WordReader := ws.foldl take start

/-- Fewer than eight bits are held, and with the bytes before them they are the bits of the words
    so far. -/
structure Holds (r : WordReader) (ws : List Word) : Prop where
  bits_lt : r.bits.toNat < 8
  acc_lt : r.acc.toNat < 2 ^ r.bits.toNat
  bits_eq : r.out.flatMap byteBits ++ lowBits r.bits.toNat r.acc.toNat = ws.flatMap wordBits

theorem start_holds : start.Holds [] := ⟨by decide, by decide, rfl⟩

namespace Holds

variable {r : WordReader} {ws : List Word}

/-- Seven bits and a word take twelve bits, so that none is shifted out. -/
theorem widened_spec (h : r.Holds ws) (w : Word) :
    (r.widened w).toNat = r.acc.toNat * 2 ^ 5 + w.toNat ∧
      (r.widened w).toNat < 2 ^ (r.bits.toNat + 5) := by
  have hacc := h.acc_lt
  have hpow : 2 ^ r.bits.toNat ≤ 2 ^ 7 :=
    Nat.pow_le_pow_right Nat.zero_lt_two (Nat.le_of_lt_succ h.bits_lt)
  have hw : w.toNat < 2 ^ 5 := w.isLt
  have hword : (UInt32.ofNat w.toNat).toNat = w.toNat :=
    UInt32.toNat_ofNat_of_lt (Nat.lt_trans hw (by decide))
  have hshift : (r.acc <<< 5).toNat = r.acc.toNat <<< 5 := by
    have hfits : r.acc.toNat <<< 5 < 2 ^ 32 := by
      rw [Nat.shiftLeft_eq]
      omega
    rw [UInt32.toNat_shiftLeft]
    exact Nat.mod_eq_of_lt hfits
  have heq : (r.widened w).toNat = r.acc.toNat * 2 ^ 5 + w.toNat := by
    rw [widened, UInt32.toNat_or, hshift, hword, ← Nat.shiftLeft_add_eq_or_of_lt hw,
      Nat.shiftLeft_eq]
  refine ⟨heq, ?_⟩
  rw [heq, Nat.pow_add]
  omega

theorem widened_lt (h : r.Holds ws) (w : Word) : (r.widened w).toNat < 2 ^ 12 :=
  Nat.lt_of_lt_of_le (h.widened_spec w).2
    (Nat.pow_le_pow_right Nat.zero_lt_two (Nat.add_le_add_right (Nat.le_of_lt_succ h.bits_lt) 5))

/-- The bytes and the widened accumulator are the bits of all words, this one included. -/
theorem widened_bits (h : r.Holds ws) (w : Word) :
    r.out.flatMap byteBits ++ lowBits (r.bits.toNat + 5) (r.widened w).toNat =
      (ws ++ [w]).flatMap wordBits := by
  rw [(h.widened_spec w).1, lowBits_append _ 5 _ w.isLt, ← List.append_assoc, h.bits_eq,
    List.flatMap_append, List.flatMap_singleton, wordBits]

theorem toNat_bits_add (h : r.Holds ws) : (r.bits + 5).toNat = r.bits.toNat + 5 := by
  have hlt := h.bits_lt
  have hsum : r.bits.toNat + 5 < 2 ^ 32 := by omega
  rw [UInt32.toNat_add]
  exact Nat.mod_eq_of_lt hsum

theorem take_of_le (h : r.Holds ws) (w : Word) (hbyte : 8 ≤ r.bits + 5) :
    (r.take w).Holds (ws ++ [w]) := by
  have hlt := h.bits_lt
  have hheld : 8 ≤ r.bits.toNat + 5 := by
    rw [← h.toNat_bits_add]
    exact UInt32.le_iff_toNat_le.1 hbyte
  have htake : r.take w = ⟨r.widened w &&& ((1 <<< (r.bits + 5 - 8)) - 1), r.bits + 5 - 8,
      r.out ++ [(r.widened w >>> (r.bits + 5 - 8)).toUInt8]⟩ := if_pos hbyte
  have hleft : (r.bits + 5 - 8).toNat + 8 = r.bits.toNat + 5 := by
    rw [UInt32.toNat_sub_of_le _ _ hbyte, h.toNat_bits_add]
    exact Nat.sub_add_cancel hheld
  rw [htake]
  generalize r.bits + 5 - 8 = left at hleft
  have hsmall : left.toNat < 32 := by omega
  have hmask := toNat_and_mask (r.widened w) hsmall
  refine ⟨?_, ?_, ?_⟩
  · show left.toNat < 8
    omega
  · rw [hmask]
    exact Nat.mod_lt _ (Nat.two_pow_pos _)
  · -- the byte and what the mask leaves are the widened accumulator, cut in two
    rw [hmask, lowBits_mod (Nat.le_refl _), List.flatMap_append, List.flatMap_singleton,
      byteBits_shiftRight _ hsmall, List.append_assoc, ← lowBits_add, Nat.add_comm 8, hleft,
      h.widened_bits]

theorem take_of_not_le (h : r.Holds ws) (w : Word) (hbyte : ¬ 8 ≤ r.bits + 5) :
    (r.take w).Holds (ws ++ [w]) := by
  have hheld : ¬ 8 ≤ r.bits.toNat + 5 := by
    rw [← h.toNat_bits_add]
    exact fun hle => hbyte (UInt32.le_iff_toNat_le.2 hle)
  have htake : r.take w = ⟨r.widened w, r.bits + 5, r.out⟩ := if_neg hbyte
  rw [htake]
  refine ⟨?_, ?_, ?_⟩
  · rw [h.toNat_bits_add]
    exact Nat.not_le.1 hheld
  · rw [h.toNat_bits_add]
    exact (h.widened_spec w).2
  · rw [h.toNat_bits_add, h.widened_bits]

/-- **One word preserves `Holds`.** -/
theorem take (h : r.Holds ws) (w : Word) : (r.take w).Holds (ws ++ [w]) := by
  by_cases hbyte : 8 ≤ r.bits + 5
  · exact h.take_of_le w hbyte
  · exact h.take_of_not_le w hbyte

/-- Reading goes on with the rest from accumulator and bit count. -/
theorem bytesOfWords_append (h : r.Holds ws) (rest : List Word) :
    bytesOfWords (ws ++ rest) = r.out ++ bytesFrom r.acc.toNat r.bits.toNat rest := by
  have hcount := congrArg List.length h.bits_eq
  rw [List.length_append, length_flatMap_byteBits, length_lowBits, length_flatMap_wordBits]
    at hcount
  have hwhole : 8 * (5 * (ws ++ rest).length / 8) =
      (r.out.flatMap byteBits).length + 8 * ((r.bits.toNat + 5 * rest.length) / 8) := by
    rw [length_flatMap_byteBits, List.length_append]
    omega
  refine eq_of_byteBits ?_
  rw [byteBits_bytesOfWords, hwhole, List.flatMap_append, List.flatMap_append, ← h.bits_eq,
    byteBits_bytesFrom _ _ rest h.bits_lt, List.append_assoc, List.take_length_add_append]

theorem out_eq (h : r.Holds ws) : r.out = bytesOfWords ws := by
  have hall := h.bytesOfWords_append []
  rwa [List.append_nil, bytesFrom, List.append_nil, eq_comm] at hall

end Holds

/-- **Reading any words ends in `Holds`.** -/
theorem readAll_holds (ws : List Word) : (readAll ws).Holds ws := by
  induction ws using List.reverseRecOn with
  | nil => exact start_holds
  | append_singleton ws w ih =>
    rw [readAll, List.foldl_append, List.foldl_cons, List.foldl_nil]
    exact ih.take w

end WordReader

/-! ## Bytes of words -/

/-- **`bytesOfWords` gives exactly the whole bytes of the words**: their bits are the first bits of
    the words. The accumulator of `WordReader` never exceeds twelve bits, so that 32 bits are
    enough. Regrouped bytes are read back (`IsRegrouping`). -/
theorem bytesOfWords_whole_bytes :
    (∀ ws : List Word, (bytesOfWords ws).length = 5 * ws.length / 8 ∧
      (bytesOfWords ws).flatMap byteBits =
        (ws.flatMap wordBits).take (8 * (5 * ws.length / 8)) ∧
      (WordReader.readAll ws).out = bytesOfWords ws ∧
      (∀ rest, bytesOfWords (ws ++ rest) = (WordReader.readAll ws).out ++
        bytesFrom (WordReader.readAll ws).acc.toNat (WordReader.readAll ws).bits.toNat rest) ∧
      ∀ w : Word, ((WordReader.readAll ws).widened w).toNat =
          (WordReader.readAll ws).acc.toNat * 2 ^ 5 + w.toNat ∧
        ((WordReader.readAll ws).widened w).toNat < 2 ^ 12) ∧
    ∀ bs : Bytes, IsRegrouping (wordsOfBytes bs) bs ∧
      ∀ ws, IsRegrouping ws bs → bytesOfWords ws = bs := by
  refine ⟨fun ws => ?_, fun bs => ⟨wordBits_wordsOfBytes bs, fun _ h => h.bytesOfWords_eq⟩⟩
  have hread := WordReader.readAll_holds ws
  exact ⟨length_bytesOfWords ws, byteBits_bytesOfWords ws, hread.out_eq,
    hread.bytesOfWords_append, fun w => ⟨(hread.widened_spec w).1, hread.widened_lt w⟩⟩

/-- Three bytes in five words, the last of which is filled up with a bit. -/
theorem bytesOfWords_whole_bytes_three :
    IsRegrouping [0, 3, 31, 18, 28] [0, 255, 46] ∧
      bytesOfWords [0, 3, 31, 18, 28] = [0, 255, 46] := by
  have hwords : IsRegrouping [0, 3, 31, 18, 28] [0, 255, 46] := ⟨1, by decide, by decide⟩
  exact ⟨hwords, (bytesOfWords_whole_bytes.2 _).2 _ hwords⟩

end LightningLottery
