/-
  Bytes as words of five bits, and back.

  Both ways of regrouping keep the order of the bits: they differ in what they do at the end, where
  bits are filled up or dropped.

  * `byteBits_bytesOfWords`: the bits of the bytes are the first bits of the words, as many as whole
    bytes take.
  * `wordBits_wordsOfBytes`: the bits of the words are those of the bytes, and zeros behind.
  * `IsRegrouping`, `bytesOfWords_wordsOfBytes`: bytes are read back from their words.
  * `wordsOfBytes_bytesOfWords`: so are words from their bytes, if they end as words of bytes do.
-/
import LightningLottery.Bech32.Words
import Mathlib.Algebra.Ring.Nat
import Mathlib.Data.List.Induction
import Mathlib.Tactic.SplitIfs

namespace LightningLottery

/-! ## Bits of a number -/

/-- The lowest bits of a number, the highest of them first. -/
def lowBits : Nat → Nat → List Bool
  | 0, _ => []
  | count + 1, n => n.testBit count :: lowBits count n

theorem length_lowBits (count n : Nat) : (lowBits count n).length = count := by
  induction count with
  | zero => rfl
  | succ count ih => rw [lowBits, List.length_cons, ih]

theorem lowBits_add (high low n : Nat) :
    lowBits (high + low) n = lowBits high (n / 2 ^ low) ++ lowBits low n := by
  induction high with
  | zero => rw [Nat.zero_add]; rfl
  | succ high ih =>
    rw [Nat.succ_add, lowBits, lowBits, ih, List.cons_append, Nat.testBit_div_two_pow]

theorem lowBits_mod {count more : Nat} (h : count ≤ more) (n : Nat) :
    lowBits count (n % 2 ^ more) = lowBits count n := by
  induction count with
  | zero => rfl
  | succ count ih =>
    rw [lowBits, lowBits, ih (by omega), Nat.testBit_mod_two_pow, decide_eq_true (by omega),
      Bool.true_and]

theorem lowBits_zero (count : Nat) : lowBits count 0 = List.replicate count false := by
  induction count with
  | zero => rfl
  | succ count ih => rw [lowBits, ih, Nat.zero_testBit, List.replicate_succ]

theorem lowBits_injective {count m n : Nat} (hm : m < 2 ^ count) (hn : n < 2 ^ count)
    (h : lowBits count m = lowBits count n) : m = n := by
  have hbits : ∀ i < count, m.testBit i = n.testBit i := by
    clear hm hn
    induction count with
    | zero => exact fun i hi => absurd hi (Nat.not_lt_zero i)
    | succ count ih =>
      intro i hi
      rw [lowBits, lowBits, List.cons.injEq] at h
      rcases Nat.lt_succ_iff_lt_or_eq.1 hi with hlt | rfl
      · exact ih h.2 i hlt
      · exact h.1
  refine Nat.eq_of_testBit_eq fun i => ?_
  rcases Nat.lt_or_ge i count with hi | hi
  · exact hbits i hi
  · have hpow : 2 ^ count ≤ 2 ^ i := Nat.pow_le_pow_right (by decide) hi
    rw [Nat.testBit_lt_two_pow (by omega), Nat.testBit_lt_two_pow (by omega)]

theorem lowBits_append (high low n : Nat) {m : Nat} (hm : m < 2 ^ low) :
    lowBits (high + low) (n * 2 ^ low + m) = lowBits high n ++ lowBits low m := by
  have hpos : 0 < 2 ^ low := Nat.two_pow_pos low
  have hdiv : (n * 2 ^ low + m) / 2 ^ low = n := by
    rw [Nat.mul_comm, Nat.mul_add_div hpos, Nat.div_eq_of_lt hm, Nat.add_zero]
  have hmod : (n * 2 ^ low + m) % 2 ^ low = m := by
    rw [Nat.mul_comm, Nat.mul_add_mod, Nat.mod_eq_of_lt hm]
  rw [lowBits_add, hdiv, ← lowBits_mod (Nat.le_refl low) (n * 2 ^ low + m), hmod]

/-! ## Bits of words and bytes -/

/-- The bits of a word, the highest first. -/
def wordBits (w : Word) : List Bool := lowBits 5 w.toNat

/-- The bits of a byte, the highest first. -/
def byteBits (b : UInt8) : List Bool := lowBits 8 b.toNat

theorem wordBits_ofNat (n : Nat) : wordBits (BitVec.ofNat 5 n) = lowBits 5 n := by
  rw [wordBits, BitVec.toNat_ofNat, lowBits_mod (Nat.le_refl 5)]

theorem byteBits_ofNat (n : Nat) : byteBits (UInt8.ofNat n) = lowBits 8 n := by
  rw [byteBits, UInt8.toNat_ofNat', lowBits_mod (Nat.le_refl 8)]

/-- Items with bits of one length are determined by the bits of all of them. -/
theorem flatMap_bits_injective {α : Type} {bits : α → List Bool} {count : Nat} (hpos : 0 < count)
    (hlength : ∀ a, (bits a).length = count) (hbits : Function.Injective bits) :
    Function.Injective (List.flatMap bits) := by
  intro xs ys h
  induction xs generalizing ys with
  | nil =>
    cases ys with
    | nil => rfl
    | cons y ys =>
      have hcount := congrArg List.length h
      rw [List.flatMap_cons, List.length_append, hlength] at hcount
      simp only [List.flatMap_nil, List.length_nil] at hcount
      omega
  | cons x xs ih =>
    cases ys with
    | nil =>
      have hcount := congrArg List.length h
      rw [List.flatMap_cons, List.length_append, hlength] at hcount
      simp only [List.flatMap_nil, List.length_nil] at hcount
      omega
    | cons y ys =>
      rw [List.flatMap_cons, List.flatMap_cons] at h
      obtain ⟨hx, hxs⟩ := List.append_inj h (by rw [hlength, hlength])
      rw [hbits hx, ih hxs]

theorem wordBits_injective : Function.Injective wordBits := fun v w h =>
  BitVec.eq_of_toNat_eq (lowBits_injective v.isLt w.isLt h)

theorem byteBits_injective : Function.Injective byteBits := fun a b h =>
  UInt8.toNat_inj.1 (lowBits_injective a.toNat_lt b.toNat_lt h)

theorem eq_of_wordBits {vs ws : List Word} (h : vs.flatMap wordBits = ws.flatMap wordBits) :
    vs = ws :=
  flatMap_bits_injective (by decide) (fun _ => length_lowBits 5 _) wordBits_injective h

theorem eq_of_byteBits {as bs : Bytes} (h : as.flatMap byteBits = bs.flatMap byteBits) : as = bs :=
  flatMap_bits_injective (by decide) (fun _ => length_lowBits 8 _) byteBits_injective h

theorem length_flatMap_wordBits (ws : List Word) : (ws.flatMap wordBits).length = 5 * ws.length := by
  induction ws with
  | nil => rfl
  | cons w ws ih =>
    rw [List.flatMap_cons, List.length_append, ih, wordBits, length_lowBits, List.length_cons]
    omega

theorem length_flatMap_byteBits (bs : Bytes) : (bs.flatMap byteBits).length = 8 * bs.length := by
  induction bs with
  | nil => rfl
  | cons b bs ih =>
    rw [List.flatMap_cons, List.length_append, ih, byteBits, length_lowBits, List.length_cons]
    omega

/-! ## Regrouping -/

theorem length_bytesFrom (pending bits : Nat) (ws : List Word) (hbits : bits < 8) :
    (bytesFrom pending bits ws).length = (bits + 5 * ws.length) / 8 := by
  fun_induction bytesFrom pending bits ws with
  | case1 => simp [Nat.div_eq_of_lt hbits]
  | case2 _ _ w ws _ held hheld left ih =>
    rw [List.length_cons, ih (by omega), List.length_cons]
    omega
  | case3 _ _ w ws _ held hheld ih =>
    rw [ih (by omega), List.length_cons]
    omega

/-- The bits of the bytes that pending bits and words carry are the first of them all. -/
theorem byteBits_bytesFrom (pending bits : Nat) (ws : List Word) (hbits : bits < 8) :
    (bytesFrom pending bits ws).flatMap byteBits =
      (lowBits bits pending ++ ws.flatMap wordBits).take (8 * ((bits + 5 * ws.length) / 8)) := by
  fun_induction bytesFrom pending bits ws with
  | case1 => simp [Nat.div_eq_of_lt hbits]
  | case2 pending bits w ws value held hheld left ih =>
    have hsplit : lowBits bits pending ++ wordBits w =
        lowBits 8 (value >>> left) ++ lowBits left (value % (1 <<< left)) := by
      rw [wordBits, ← lowBits_append bits 5 pending w.isLt, Nat.shiftRight_eq_div_pow,
        Nat.one_shiftLeft, lowBits_mod (Nat.le_refl left), ← lowBits_add]
      congr 1
      omega
    have hcount : 8 * ((bits + 5 * (w :: ws).length) / 8) =
        8 + 8 * ((left + 5 * ws.length) / 8) := by
      rw [List.length_cons]
      omega
    have htake (i : Nat) (rest : List Bool) : (lowBits 8 (value >>> left) ++ rest).take (8 + i) =
        lowBits 8 (value >>> left) ++ rest.take i :=
      length_lowBits 8 (value >>> left) ▸ List.take_length_add_append i
    rw [List.flatMap_cons, List.flatMap_cons, ih (by omega), byteBits_ofNat, ← List.append_assoc,
      hsplit, List.append_assoc, hcount, htake]
  | case3 pending bits w ws value held hheld ih =>
    have hcount : bits + 5 * (w :: ws).length = held + 5 * ws.length := by
      rw [List.length_cons]
      omega
    have hvalue : value = pending * 2 ^ 5 + w.toNat := rfl
    rw [ih (by omega), hcount, List.flatMap_cons, ← List.append_assoc, wordBits,
      ← lowBits_append bits 5 pending w.isLt, ← hvalue]

theorem length_wordsFrom (pending bits : Nat) (bs : Bytes) (hbits : bits < 5) :
    (wordsFrom pending bits bs).length = (bits + 8 * bs.length + 4) / 5 := by
  fun_induction wordsFrom pending bits bs with
  | case1 => rfl
  | case2 pending bits hne => simp only [List.length_cons, List.length_nil]; omega
  | case3 pending bits b bs value held hheld left ih =>
    rw [List.length_cons, List.length_cons, ih (by omega), List.length_cons]
    omega
  | case4 pending bits b bs value held hheld left ih =>
    rw [List.length_cons, ih (by omega), List.length_cons]
    omega

/-- The bits of the words for pending bits and bytes are all of them, filled up with zeros. -/
theorem wordBits_wordsFrom (pending bits : Nat) (bs : Bytes) (hbits : bits < 5) :
    ∃ fill < 5, (wordsFrom pending bits bs).flatMap wordBits =
      lowBits bits pending ++ bs.flatMap byteBits ++ List.replicate fill false := by
  fun_induction wordsFrom pending bits bs with
  | case1 => exact ⟨0, by decide, rfl⟩
  | case2 pending bits hne =>
    refine ⟨5 - bits, by omega, ?_⟩
    have hpad := lowBits_append bits (5 - bits) pending (Nat.two_pow_pos (5 - bits))
    rw [Nat.add_sub_cancel' (by omega), Nat.add_zero, lowBits_zero] at hpad
    rw [List.flatMap_cons, List.flatMap_nil, List.flatMap_nil, List.append_nil, List.append_nil,
      wordBits_ofNat, Nat.shiftLeft_eq, hpad]
  | case3 pending bits b bs value held hheld left ih =>
    obtain ⟨fill, hfill, hrest⟩ := ih (by omega)
    have hsplit : lowBits bits pending ++ byteBits b = lowBits 5 (value >>> (left + 5)) ++
        (lowBits 5 (value >>> left) ++ lowBits left (value % (1 <<< left))) := by
      rw [byteBits, ← lowBits_append bits 8 pending b.toNat_lt, Nat.shiftRight_eq_div_pow,
        Nat.shiftRight_eq_div_pow, Nat.one_shiftLeft, lowBits_mod (Nat.le_refl left),
        ← lowBits_add, Nat.add_comm left 5, ← lowBits_add]
      congr 1
      omega
    refine ⟨fill, hfill, ?_⟩
    have := congrArg (· ++ (bs.flatMap byteBits ++ List.replicate fill false)) hsplit.symm
    simpa only [List.flatMap_cons, wordBits_ofNat, hrest, List.append_assoc] using this
  | case4 pending bits b bs value held hheld left ih =>
    obtain ⟨fill, hfill, hrest⟩ := ih (by omega)
    have hsplit : lowBits bits pending ++ byteBits b =
        lowBits 5 (value >>> left) ++ lowBits left (value % (1 <<< left)) := by
      rw [byteBits, ← lowBits_append bits 8 pending b.toNat_lt, Nat.shiftRight_eq_div_pow,
        Nat.one_shiftLeft, lowBits_mod (Nat.le_refl left), ← lowBits_add]
      congr 1
      omega
    refine ⟨fill, hfill, ?_⟩
    have := congrArg (· ++ (bs.flatMap byteBits ++ List.replicate fill false)) hsplit.symm
    simpa only [List.flatMap_cons, wordBits_ofNat, hrest, List.append_assoc] using this

/-- **The bits of `bytesOfWords` are the first bits of the words**, in whole bytes. -/
theorem byteBits_bytesOfWords (ws : List Word) :
    (bytesOfWords ws).flatMap byteBits =
      (ws.flatMap wordBits).take (8 * (5 * ws.length / 8)) := by
  rw [bytesOfWords, byteBits_bytesFrom 0 0 ws (by decide), Nat.zero_add]
  rfl

theorem length_bytesOfWords (ws : List Word) : (bytesOfWords ws).length = 5 * ws.length / 8 := by
  rw [bytesOfWords, length_bytesFrom 0 0 ws (by decide), Nat.zero_add]

/-- **The bits of `wordsOfBytes` are those of the bytes**, with fewer than five zeros behind. -/
theorem wordBits_wordsOfBytes (bs : Bytes) :
    ∃ fill < 5, (wordsOfBytes bs).flatMap wordBits =
      bs.flatMap byteBits ++ List.replicate fill false := by
  obtain ⟨fill, hfill, h⟩ := wordBits_wordsFrom 0 0 bs (by decide)
  exact ⟨fill, hfill, h⟩

theorem length_wordsOfBytes (bs : Bytes) : (wordsOfBytes bs).length = (8 * bs.length + 4) / 5 := by
  rw [wordsOfBytes, length_wordsFrom 0 0 bs (by decide), Nat.zero_add]

/-- Words have the bits of bytes, filled up with fewer than five zeros. -/
def IsRegrouping (ws : List Word) (bs : Bytes) : Prop :=
  ∃ fill < 5, ws.flatMap wordBits = bs.flatMap byteBits ++ List.replicate fill false

/-- Words whose bits are those of bytes and fewer than eight more are read as these bytes. -/
theorem bytesOfWords_of_bits {ws : List Word} {bs : Bytes} {rest : List Bool}
    (h : ws.flatMap wordBits = bs.flatMap byteBits ++ rest) (hrest : rest.length < 8) :
    bytesOfWords ws = bs := by
  have hcount := congrArg List.length h
  rw [List.length_append, length_flatMap_wordBits, length_flatMap_byteBits] at hcount
  have hwhole : 8 * (5 * ws.length / 8) = (bs.flatMap byteBits).length := by
    rw [length_flatMap_byteBits]
    omega
  exact eq_of_byteBits (by rw [byteBits_bytesOfWords, h, hwhole, List.take_left])

theorem IsRegrouping.bytesOfWords_eq {ws : List Word} {bs : Bytes} (h : IsRegrouping ws bs) :
    bytesOfWords ws = bs := by
  obtain ⟨fill, hfill, hbits⟩ := h
  refine bytesOfWords_of_bits hbits ?_
  rw [List.length_replicate]
  omega

/-- **Bytes are read back from their words.** -/
theorem bytesOfWords_wordsOfBytes (bs : Bytes) : bytesOfWords (wordsOfBytes bs) = bs :=
  IsRegrouping.bytesOfWords_eq (wordBits_wordsOfBytes bs)

theorem lowBits_eq_zeros_iff {count n : Nat} :
    lowBits count n = List.replicate count false ↔ n % 2 ^ count = 0 := by
  rw [← lowBits_mod (Nat.le_refl count), ← lowBits_zero]
  refine ⟨fun h => ?_, fun h => by rw [h]⟩
  exact lowBits_injective (Nat.mod_lt _ (Nat.two_pow_pos count)) (Nat.two_pow_pos count) h

/-- The words of bytes end with fewer than five bits more than whole bytes take, all of them
    zero. -/
theorem isPadded_iff {ws : List Word} :
    isPadded ws = true ↔ 5 * ws.length % 8 < 5 ∧
      (ws.flatMap wordBits).drop (8 * (5 * ws.length / 8)) =
        List.replicate (5 * ws.length % 8) false := by
  have hcount := Nat.div_add_mod (5 * ws.length) 8
  simp only [isPadded, Bool.and_eq_true, decide_eq_true_eq, beq_iff_eq]
  refine and_congr_right fun hfew => ?_
  rcases ws.eq_nil_or_concat with rfl | ⟨init, w, rfl⟩
  · exact ⟨fun _ => rfl, fun _ => rfl⟩
  · rw [List.concat_eq_append] at hfew hcount ⊢
    generalize 5 * (init ++ [w]).length % 8 = left at hfew hcount
    have hlast : ((init ++ [w]).getLast?.getD 0).toNat = w.toNat := by simp
    have hcut : wordBits w = lowBits (5 - left) (w.toNat / 2 ^ left) ++ lowBits left w.toNat := by
      rw [wordBits, ← lowBits_add, Nat.sub_add_cancel (by omega)]
    have hdrop : 8 * (5 * (init ++ [w]).length / 8) =
        (init.flatMap wordBits ++ lowBits (5 - left) (w.toNat / 2 ^ left)).length := by
      simp only [List.length_append, List.length_singleton, length_flatMap_wordBits,
        length_lowBits] at hcount ⊢
      omega
    rw [hlast, Nat.one_shiftLeft, ← lowBits_eq_zeros_iff, hdrop, List.flatMap_append,
      List.flatMap_singleton, hcut, ← List.append_assoc, List.drop_left]

theorem isPadded_wordsOfBytes (bs : Bytes) : isPadded (wordsOfBytes bs) = true := by
  obtain ⟨fill, hfill, hbits⟩ := wordBits_wordsOfBytes bs
  have hlength := congrArg List.length hbits
  rw [List.length_append, length_flatMap_wordBits, length_flatMap_byteBits, List.length_replicate]
    at hlength
  have hwhole : 5 * (wordsOfBytes bs).length / 8 = bs.length := by omega
  have hleft : 5 * (wordsOfBytes bs).length % 8 = fill := by omega
  refine isPadded_iff.2 ⟨hleft ▸ hfill, ?_⟩
  rw [hwhole, hleft, hbits, ← length_flatMap_byteBits, List.drop_left]

/-- **Words are read back from their bytes**, if they end as words of bytes do. -/
theorem wordsOfBytes_bytesOfWords {ws : List Word} (h : isPadded ws = true) :
    wordsOfBytes (bytesOfWords ws) = ws := by
  obtain ⟨fill, hfill, hbits⟩ := wordBits_wordsOfBytes (bytesOfWords ws)
  have hlength := congrArg List.length hbits
  rw [List.length_append, length_flatMap_wordBits, length_flatMap_byteBits, List.length_replicate,
    length_wordsOfBytes, length_bytesOfWords] at hlength
  obtain ⟨hfew, hzeros⟩ := isPadded_iff.1 h
  have hleft : fill = 5 * ws.length % 8 := by omega
  refine eq_of_wordBits ?_
  rw [hbits, byteBits_bytesOfWords, hleft, ← hzeros, List.take_append_drop]

end LightningLottery
