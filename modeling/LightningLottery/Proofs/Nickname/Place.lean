/-
  The place of a key in a pool of nicknames.

  * `keyNumber`: the 256-bit number of a key; `keyNumber_lt`, `exists_keyNumber`: all of them occur.
  * `NicknamePool.share_eq_round`, `NicknamePool.indexOfNumber_eq`: the place of a number, computed
    in whole numbers, is the one that rational numbers give.
  * `NicknamePool.indexOfNumber_mono`, `NicknamePool.indexOfNumber_near`: greater numbers have later
    places, and no place is off by more than one.
  * `NicknamePool.nameAt_eq`: the parts of the nickname at a place are in the pool.
  * `NicknamePool.indexOf_characterised`: all this of keys.
-/
import LightningLottery.Nickname.Pool
import LightningLottery.Proofs.Identity.Restore
import LightningLottery.Proofs.Text.Radix
import LightningLottery.Word64

namespace LightningLottery

/-! ## Numbers of keys -/

theorem isHexKey_iff {s : String} : isHexKey s = true ↔ IsKeyText s := by
  rw [isHexKey, Bool.and_eq_true, beq_iff_eq, isHex_iff, IsKeyText]
  constructor
  · rintro ⟨hsize, -, hdigits⟩
    exact ⟨hdigits.utf8ByteSize.symm.trans hsize, hdigits⟩
  · rintro ⟨hlength, hdigits⟩
    exact ⟨hdigits.utf8ByteSize.trans hlength, by omega, hdigits⟩

/-- The 256-bit number of a key: that of its digits if it is a key text, in either letter case, and
    else that of the digest of the text. -/
def keyNumber (key : String) : Nat :=
  if IsKeyText key then Nat.ofDigits 16 (key.toList.reverse.map digitValue)
  else Nat.ofDigits 256 ((sha256 (utf8 key)).reverse.map UInt8.toNat)

theorem hexNumber_keyDigitsOf (key : String) :
    hexNumber (NicknamePool.keyDigitsOf key) = keyNumber key := by
  unfold NicknamePool.keyDigitsOf keyNumber
  by_cases hkey : IsKeyText key
  · rw [if_pos (isHexKey_iff.2 hkey), if_pos hkey, hexNumber_eq hkey.2]
  · rw [if_neg (mt isHexKey_iff.1 hkey), if_neg hkey, hexNumber_hexEncode, bigEndian_eq]

theorem exists_keyBytes (key : String) :
    ∃ bs : Bytes, bs.length = 32 ∧ keyNumber key = bigEndian bs := by
  by_cases hkey : IsKeyText key
  · obtain ⟨bs, hbs⟩ := exists_decodeHexKey_iff.2 hkey
    obtain ⟨hlength, hsmall⟩ := decodeHexKey_eq_ok_iff.1 hbs
    refine ⟨bs, hlength, ?_⟩
    rw [← hexNumber_hexEncode, ← hsmall, hexNumber_asciiLower, hexNumber_eq hkey.2, keyNumber,
      if_pos hkey]
  · exact ⟨sha256 (utf8 key), length_sha256 _, by rw [keyNumber, if_neg hkey, bigEndian_eq]⟩

theorem keyNumber_lt (key : String) : keyNumber key < 2 ^ 256 := by
  obtain ⟨bs, hlength, hnumber⟩ := exists_keyBytes key
  have hlt := bigEndian_lt bs
  rw [hlength] at hlt
  rw [hnumber]
  norm_num at hlt ⊢
  exact hlt

/-- **Every 256-bit number is that of a key.** -/
theorem exists_keyNumber {k : Nat} (h : k < 2 ^ 256) : ∃ key, keyNumber key = k := by
  have hwide : k < 256 ^ 32 := by
    norm_num at h ⊢
    exact h
  obtain ⟨bs, hlength, hbs⟩ := exists_bigEndian 32 hwide
  have hkey : IsKeyText (hexEncode bs) := isHexKey_iff.1 (isHexKey_hexEncode hlength)
  refine ⟨hexEncode bs, ?_⟩
  rw [keyNumber, if_pos hkey, ← hexNumber_eq hkey.2, hexNumber_hexEncode, hbs]

/-! ## Rounding -/

/-- A quotient of natural numbers, rounded to the nearest one, a half up. -/
theorem round_natCast_div (a : Nat) {d : Nat} (hd : 0 < d) :
    round ((a : ℚ) / d) = ((2 * a + d) / (2 * d) : Nat) := by
  have hd' : (d : ℚ) ≠ 0 := by exact_mod_cast hd.ne'
  have hhalf : (a : ℚ) / d + 1 / 2 = ((2 * a + d : Nat) : ℚ) / (2 * d : Nat) := by
    push_cast
    field_simp
  rw [round_eq, hhalf, Rat.floor_natCast_div_natCast]
  rfl

/-- Numbers that differ by less than one have the same floor, or one next to it. -/
theorem abs_floor_sub_floor_le {x y : ℚ} (h : |x - y| < 1) : |⌊x⌋ - ⌊y⌋| ≤ 1 := by
  obtain ⟨hxy, hyx⟩ := abs_lt.1 h
  have hx := Int.floor_le x
  have hx' := Int.lt_floor_add_one x
  have hy := Int.floor_le y
  have hy' := Int.lt_floor_add_one y
  have hlt : ((⌊x⌋ : ℤ) : ℚ) < ⌊y⌋ + 2 := by linarith
  have hgt : ((⌊y⌋ : ℤ) : ℚ) < ⌊x⌋ + 2 := by linarith
  have hlt' : ⌊x⌋ < ⌊y⌋ + 2 := by exact_mod_cast hlt
  have hgt' : ⌊y⌋ < ⌊x⌋ + 2 := by exact_mod_cast hgt
  rw [abs_le]
  omega

namespace NicknamePool

variable (pool : NicknamePool) {k k' : Nat}

theorem keyCount_eq : keyCount = 2 ^ 256 := Nat.one_shiftLeft 256

theorem scale_eq : scale = 10 ^ 20 := by norm_num [scale]

/-! ## Places of numbers -/

theorem length_adjectives_pos : 0 < pool.adjectives.length :=
  List.length_pos_iff.2 pool.adjectives_ne_nil

theorem length_nouns_pos : 0 < pool.nouns.length := List.length_pos_iff.2 pool.nouns_ne_nil

theorem size_pos : 0 < pool.size := by
  have hadjectives := pool.length_adjectives_pos
  have hnouns := pool.length_nouns_pos
  unfold size maxNumber
  positivity

/-- The share of a number is rounded as rational numbers are. -/
theorem share_eq_round (k : Nat) : (share k : ℤ) = round ((k : ℚ) * 10 ^ 20 / 2 ^ 256) := by
  have hcount : 0 < keyCount := by simp [keyCount_eq]
  rw [share, ← round_natCast_div _ hcount, keyCount_eq, scale_eq]
  push_cast
  rfl

theorem share_mono (h : k ≤ k') : share k ≤ share k' := by
  unfold share
  gcongr

theorem share_zero : share 0 = 0 := by norm_num [share, keyCount_eq]

theorem share_last : share (2 ^ 256 - 1) = scale := by norm_num [share, keyCount_eq, scale_eq]

theorem share_le (h : k < 2 ^ 256) : share k ≤ scale :=
  share_last ▸ share_mono (Nat.le_sub_one_of_lt h)

/-- **`indexOfNumber` is the formula in rational numbers.** -/
theorem indexOfNumber_eq (k : Nat) :
    (pool.indexOfNumber k : ℤ) =
      min ((pool.size : ℤ) - 1)
        ⌊(round ((k : ℚ) * 10 ^ 20 / 2 ^ 256) : ℚ) * pool.size / 10 ^ 20⌋ := by
  have hfloor : ((share k * pool.size / scale : Nat) : ℤ) =
      ⌊(round ((k : ℚ) * 10 ^ 20 / 2 ^ 256) : ℚ) * pool.size / 10 ^ 20⌋ := by
    rw [← share_eq_round, scale_eq, Int.natCast_div, ← Rat.floor_natCast_div_natCast]
    push_cast
    rfl
  have hsize := pool.size_pos
  rw [indexOfNumber, Nat.cast_min, hfloor, min_comm, Nat.cast_sub hsize, Nat.cast_one]

theorem indexOfNumber_lt (k : Nat) : pool.indexOfNumber k < pool.size :=
  Nat.lt_of_le_of_lt (Nat.min_le_right _ _) (Nat.sub_lt pool.size_pos Nat.one_pos)

/-- **`indexOfNumber` is monotone.** -/
theorem indexOfNumber_mono (h : k ≤ k') : pool.indexOfNumber k ≤ pool.indexOfNumber k' :=
  min_le_min_right _ (Nat.div_le_div_right (Nat.mul_le_mul_right _ (share_mono h)))

theorem indexOfNumber_zero : pool.indexOfNumber 0 = 0 := by
  rw [indexOfNumber, share_zero, Nat.zero_mul, Nat.zero_div, Nat.zero_min]

theorem indexOfNumber_last : pool.indexOfNumber (2 ^ 256 - 1) = pool.size - 1 := by
  have hscale : 0 < scale := by simp [scale_eq]
  rw [indexOfNumber, share_last, Nat.mul_div_cancel_left _ hscale]
  exact Nat.min_eq_right (Nat.sub_le _ _)

/-- Before it is cut to the pool, the place is at most the size of the pool. -/
theorem share_mul_size_div_le (h : k < 2 ^ 256) : share k * pool.size / scale ≤ pool.size :=
  Nat.div_le_of_le_mul (Nat.mul_le_mul_right _ (share_le h))

/-- **`indexOfNumber` is within one of the floor of the exact share.** -/
theorem indexOfNumber_near (hsize : pool.size ≤ 10 ^ 20) (h : k < 2 ^ 256) :
    |(pool.indexOfNumber k : ℤ) - ⌊(k : ℚ) * pool.size / 2 ^ 256⌋| ≤ 1 := by
  have hclose : |(round ((k : ℚ) * 10 ^ 20 / 2 ^ 256) : ℚ) * pool.size / 10 ^ 20 -
      (k : ℚ) * pool.size / 2 ^ 256| < 1 := by
    have hround := abs_sub_round ((k : ℚ) * 10 ^ 20 / 2 ^ 256)
    have hratio : (pool.size : ℚ) / 10 ^ 20 ≤ 1 := by
      rw [div_le_one (by positivity)]
      exact_mod_cast hsize
    have hsplit : (round ((k : ℚ) * 10 ^ 20 / 2 ^ 256) : ℚ) * pool.size / 10 ^ 20 -
        (k : ℚ) * pool.size / 2 ^ 256 =
          -((k : ℚ) * 10 ^ 20 / 2 ^ 256 - round ((k : ℚ) * 10 ^ 20 / 2 ^ 256)) *
            (pool.size / 10 ^ 20) := by
      ring
    rw [hsplit, abs_mul, abs_neg, abs_of_nonneg (by positivity : (0 : ℚ) ≤ pool.size / 10 ^ 20)]
    calc _ ≤ 1 / 2 * (1 : ℚ) := by gcongr
      _ < 1 := by norm_num
  have hfloor := abs_le.1 (abs_floor_sub_floor_le hclose)
  have hlast : ⌊(k : ℚ) * pool.size / 2 ^ 256⌋ < pool.size := by
    have hpos : (0 : ℚ) < pool.size := by exact_mod_cast pool.size_pos
    have hk : (k : ℚ) < 2 ^ 256 := by exact_mod_cast h
    rw [Int.floor_lt, div_lt_iff₀ (by positivity), mul_comm, Int.cast_natCast]
    gcongr
  rw [indexOfNumber_eq, abs_le]
  omega

/-! ## Parts of a nickname -/

variable {i : Nat}

theorem adjective_lt (h : i < pool.size) :
    i / (999 * pool.nouns.length) < pool.adjectives.length := by
  refine Nat.div_lt_of_lt_mul (Nat.lt_of_lt_of_eq h ?_)
  rw [size, maxNumber, Nat.mul_right_comm]

theorem noun_lt (i : Nat) : i / 999 % pool.nouns.length < pool.nouns.length :=
  Nat.mod_lt _ pool.length_nouns_pos

/-- **`nameAt` takes its words from the lists.** -/
theorem nameAt_eq (h : i < pool.size) :
    pool.nameAt i =
      pool.adjectives.get ⟨i / (999 * pool.nouns.length), pool.adjective_lt h⟩ ++
        pool.nouns.get ⟨i / 999 % pool.nouns.length, pool.noun_lt i⟩ ++ decimalText (i % 999) := by
  have hnoun : i % (999 * pool.nouns.length) / 999 = i / 999 % pool.nouns.length :=
    Nat.mod_mul_right_div_self i 999 _
  rw [nameAt, perAdjective, maxNumber, hnoun, List.getD_eq_getElem _ _ (pool.adjective_lt h),
    List.getD_eq_getElem _ _ (pool.noun_lt i), List.get_eq_getElem, List.get_eq_getElem]

theorem place_eq (i : Nat) :
    i = (i / (999 * pool.nouns.length) * pool.nouns.length + i / 999 % pool.nouns.length) * 999 +
      i % 999 := by
  rw [← Nat.div_div_eq_div_mul, Nat.div_add_mod', Nat.div_add_mod']

/-! ## Places of keys -/

theorem indexOf_eq (key : String) : pool.indexOf key = pool.indexOfNumber (keyNumber key) := by
  rw [indexOf, hexNumber_keyDigitsOf]

theorem indexOf_lt (key : String) : pool.indexOf key < pool.size := by
  rw [indexOf_eq]
  exact pool.indexOfNumber_lt _

/-- **`indexOf` is the rounded share of the key in the pool**, for pools whose size is a word. It is
    in the pool, zero for the least key and the last place for the greatest, monotone, and within
    one of the floor of the exact share. The nickname consists of the words and the number at the
    three parts of the place, and these determine it. -/
theorem indexOf_characterised (hsize : pool.size < wordLimit) :
    let a := pool.adjectives.length
    let n := pool.nouns.length
    (∀ key,
      let k := keyNumber key
      let i := pool.indexOf key
      (i : ℤ) = min ((pool.size : ℤ) - 1)
          ⌊(round ((k : ℚ) * 10 ^ 20 / 2 ^ 256) : ℚ) * pool.size / 10 ^ 20⌋ ∧
        share k * pool.size / scale < wordLimit ∧
        i < pool.size ∧ (k = 0 → i = 0) ∧ (k = 2 ^ 256 - 1 → i = pool.size - 1) ∧
        |(i : ℤ) - ⌊(k : ℚ) * pool.size / 2 ^ 256⌋| ≤ 1 ∧
        ∃ (hadjective : i / (999 * n) < a) (hnoun : i / 999 % n < n),
          pool.nickname key = pool.adjectives.get ⟨i / (999 * n), hadjective⟩ ++
            pool.nouns.get ⟨i / 999 % n, hnoun⟩ ++ decimalText (i % 999)) ∧
    (∀ key key', keyNumber key ≤ keyNumber key' → pool.indexOf key ≤ pool.indexOf key') ∧
    ∀ i j, i / (999 * n) = j / (999 * n) → i / 999 % n = j / 999 % n → i % 999 = j % 999 →
      i = j := by
  intro a n
  have hsmall : pool.size ≤ 10 ^ 20 := by
    simp only [wordLimit] at hsize
    omega
  refine ⟨?_, ?_, ?_⟩
  · intro key
    have hk := keyNumber_lt key
    have hlt := pool.indexOfNumber_lt (keyNumber key)
    have hword := Nat.lt_of_le_of_lt (pool.share_mul_size_div_le hk) hsize
    rw [nickname, indexOf_eq]
    refine ⟨pool.indexOfNumber_eq _, hword, hlt, ?_, ?_, pool.indexOfNumber_near hsmall hk,
      pool.adjective_lt hlt, pool.noun_lt _, pool.nameAt_eq hlt⟩
    · intro h
      rw [h, indexOfNumber_zero]
    · intro h
      rw [h, indexOfNumber_last]
  · intro key key' h
    rw [indexOf_eq, indexOf_eq]
    exact pool.indexOfNumber_mono h
  · intro i j hadjective hnoun hnumber
    rw [pool.place_eq i, pool.place_eq j, hadjective, hnoun, hnumber]

/-- The last key has the last name of the bundled pool. -/
theorem indexOf_characterised_last :
    let key := "ffffffffffffffffffffffffffffffffffffffffffffffffffffffffffffffff"
    bundled.size < wordLimit ∧ keyNumber key = 2 ^ 256 - 1 ∧
      bundled.indexOf key = bundled.size - 1 ∧ bundled.nickname key = "ZestyZenith998" := by
  intro key
  have hsize : bundled.size < wordLimit := by decide +kernel
  have hk : keyNumber key = 2 ^ 256 - 1 := by
    rw [← hexNumber_keyDigitsOf]
    decide
  obtain ⟨-, -, -, -, hlast, -⟩ := (bundled.indexOf_characterised hsize).1 key
  refine ⟨hsize, hk, hlast hk, ?_⟩
  rw [nickname, hlast hk]
  decide +kernel

end NicknamePool
end LightningLottery
