/-
  Digits as they are read, and the code points of a text as they are written.

  * `mem_hexDigits_iff`: the digits that can be read are twenty-two characters.
  * `IsDigits`: a text of them alone.
  * `decodeHexKey_eq_ok_iff`: a key text is what is written for its bytes, letter case aside.
  * `exists_decodeHexKey_iff`: the key texts are the texts of 64 digits.
  * `hexEncodeText_eq`: a text of characters up to U+00FF is written as its bytes.
  * `lt_utf8ByteSize_hexEncodeText`: with another character, it takes more than two digits for each.
-/
import LightningLottery.Proofs.Text.Hex
import LightningLottery.Proofs.Text.LetterCase

namespace LightningLottery

/-! ## Digits -/

/-- The hexadecimal digits, in either letter case. -/
def hexDigits : List Char := "0123456789abcdefABCDEF".toList

theorem ascii_of_hexValue? {c : Char} (h : (hexValue? c).isSome = true) : c.toNat < 128 := by
  unfold hexValue? at h
  simp only [Bool.and_eq_true, decide_eq_true_eq, Char.le_def, UInt32.le_iff_toNat_le] at h
  unfold Char.toNat
  split at h
  · next hdigit => exact Nat.lt_of_le_of_lt hdigit.2 (by decide)
  split at h
  · next hsmall => exact Nat.lt_of_le_of_lt hsmall.2 (by decide)
  split at h
  · next hcapital => exact Nat.lt_of_le_of_lt hcapital.2 (by decide)
  · cases h

/-- What a digit is like: it has a value, and its small letter is written for that value. -/
theorem digit_spec {c : Char} (h : c ∈ hexDigits) :
    c.toNat < 128 ∧ ∃ n < 16, hexValue? c = some n ∧ c.toLower = hexDigit n := by
  have hall : hexDigits.all (fun c => decide (c.toNat < 128) &&
      (hexValue? c).any fun n => decide (n < 16) && c.toLower == hexDigit n) = true := by
    decide
  have hspec := List.all_eq_true.1 hall c h
  simp only [Bool.and_eq_true, decide_eq_true_eq, Option.any_eq_true, beq_iff_eq] at hspec
  obtain ⟨hascii, n, hvalue, hn, hsmall⟩ := hspec
  exact ⟨hascii, n, hn, hvalue, hsmall⟩

/-- **The digits are the characters that have a value.** -/
theorem mem_hexDigits_iff {c : Char} : c ∈ hexDigits ↔ (hexValue? c).isSome = true := by
  constructor
  · intro h
    obtain ⟨-, n, -, hvalue, -⟩ := digit_spec h
    rw [hvalue]
    rfl
  · intro h
    have hall : ∀ n < 128, (hexValue? (Char.ofNat n)).isSome = true → Char.ofNat n ∈ hexDigits := by
      decide +kernel
    have hc := hall c.toNat (ascii_of_hexValue? h)
    rw [Char.ofNat_toNat] at hc
    exact hc h

theorem of_hexValue?_eq_some {c : Char} {n : Nat} (h : hexValue? c = some n) :
    c ∈ hexDigits ∧ n < 16 ∧ c.toLower = hexDigit n := by
  have hc : c ∈ hexDigits := mem_hexDigits_iff.2 (by rw [h]; rfl)
  obtain ⟨-, m, hm, hvalue, hsmall⟩ := digit_spec hc
  cases h.symm.trans hvalue
  exact ⟨hc, hm, hsmall⟩

/-- A text of digits alone. -/
def IsDigits (s : String) : Prop := ∀ c ∈ s.toList, c ∈ hexDigits

instance (s : String) : Decidable (IsDigits s) := List.decidableBAll _ _

theorem isHex_iff {s : String} : isHex s = true ↔ 0 < s.length ∧ IsDigits s := by
  rw [isHex, Bool.and_eq_true, List.all_eq_true, Bool.not_eq_true', List.isEmpty_eq_false_iff,
    ← List.length_pos_iff, String.length_toList]
  exact and_congr_right fun _ => forall₂_congr fun c _ => mem_hexDigits_iff.symm

theorem IsDigits.utf8ByteSize {s : String} (h : IsDigits s) : s.utf8ByteSize = s.length := by
  have hsize := utf8ByteSize_ascii s.toList fun c hc => (digit_spec (h c hc)).1
  rwa [String.ofList_toList, String.length_toList] at hsize

/-! ## Key texts -/

/-- What pairs of digits denote is written with the same digits, in small letters. -/
theorem of_hexBytes?_eq_some {cs : List Char} {bs : Bytes} (h : hexBytes? cs = some bs) :
    cs.map Char.toLower = bs.flatMap hexByte ∧ ∀ c ∈ cs, c ∈ hexDigits := by
  induction cs using hexBytes?.induct generalizing bs with
  | case1 =>
    cases h
    exact ⟨rfl, fun c hc => absurd hc List.not_mem_nil⟩
  | case2 c => cases h
  | case3 c d rest ih =>
    obtain ⟨hi, hhi, h⟩ := Option.bind_eq_some_iff.1 h
    obtain ⟨lo, hlo, h⟩ := Option.bind_eq_some_iff.1 h
    obtain ⟨after, hafter, h⟩ := Option.bind_eq_some_iff.1 h
    cases h
    obtain ⟨hc, hhigh, hcsmall⟩ := of_hexValue?_eq_some hhi
    obtain ⟨hd, hlow, hdsmall⟩ := of_hexValue?_eq_some hlo
    obtain ⟨hmap, hdigits⟩ := ih hafter
    have hvalue : (UInt8.ofNat (hi * 16 + lo)).toNat = hi * 16 + lo :=
      Utf8.toNat_ofNat (by omega)
    have hdiv : (hi * 16 + lo) / 16 = hi := by omega
    have hmod : (hi * 16 + lo) % 16 = lo := by omega
    refine ⟨?_, fun e he => ?_⟩
    · rw [List.map_cons, List.map_cons, hmap, hcsmall, hdsmall, List.flatMap_cons, hexByte, hvalue,
        hdiv, hmod]
      rfl
    · rcases List.mem_cons.1 he with rfl | he
      · exact hc
      rcases List.mem_cons.1 he with rfl | he
      · exact hd
      · exact hdigits e he

theorem exists_hexBytes? {cs : List Char} (h : ∀ c ∈ cs, c ∈ hexDigits) (heven : 2 ∣ cs.length) :
    ∃ bs, hexBytes? cs = some bs := by
  induction cs using hexBytes?.induct with
  | case1 => exact ⟨[], rfl⟩
  | case2 c => exact absurd heven (by simp)
  | case3 c d rest ih =>
    obtain ⟨-, hi, -, hhi, -⟩ := digit_spec (h c List.mem_cons_self)
    obtain ⟨-, lo, -, hlo, -⟩ := digit_spec (h d (List.mem_cons_of_mem _ List.mem_cons_self))
    obtain ⟨bs, hbs⟩ := ih (fun e he => h e (List.mem_cons_of_mem _ (List.mem_cons_of_mem _ he)))
      (by simpa using heven)
    exact ⟨UInt8.ofNat (hi * 16 + lo) :: bs, by rw [hexBytes?, hhi, hlo, hbs]; rfl⟩

/-- **A key text is what is written for its 32 bytes**, letter case aside. -/
theorem decodeHexKey_eq_ok_iff {s : String} {bs : Bytes} :
    decodeHexKey s = .ok bs ↔ bs.length = 32 ∧ asciiLower s = hexEncode bs := by
  constructor
  · intro h
    unfold decodeHexKey at h
    split at h
    · cases h
    next hsize =>
    split at h
    swap
    · cases h
    next hread =>
    cases h
    obtain ⟨hsmall, hdigits⟩ := of_hexBytes?_eq_some hread
    have hlength := congrArg List.length hsmall
    rw [List.length_map, length_flatMap_hexByte, String.length_toList,
      ← IsDigits.utf8ByteSize hdigits, not_not.1 hsize, keyDigits] at hlength
    refine ⟨by omega, ?_⟩
    rw [← String.toList_inj, toList_asciiLower, hsmall, hexEncode, String.toList_ofList]
  · rintro ⟨hlength, hsmall⟩
    rw [← decodeHexKey_asciiLower, hsmall]
    exact decodeHexKey_hexEncode hlength

/-- **The key texts are the texts of 64 digits.** -/
theorem exists_decodeHexKey_iff {s : String} :
    (∃ bs, decodeHexKey s = .ok bs) ↔ s.length = 64 ∧ IsDigits s := by
  constructor
  · rintro ⟨bs, h⟩
    unfold decodeHexKey at h
    split at h
    · cases h
    next hsize =>
    split at h
    swap
    · cases h
    next hread =>
    have hdigits : IsDigits s := (of_hexBytes?_eq_some hread).2
    exact ⟨hdigits.utf8ByteSize.symm.trans (not_not.1 hsize), hdigits⟩
  · rintro ⟨hlength, hdigits⟩
    obtain ⟨bs, hbs⟩ := exists_hexBytes? hdigits (by rw [String.length_toList, hlength]; decide)
    refine ⟨bs, ?_⟩
    have hsize : s.utf8ByteSize = keyDigits := hdigits.utf8ByteSize.trans hlength
    rw [decodeHexKey, if_neg (not_not.2 hsize), hexDecode?, hbs]

/-! ## Code points -/

/-- The code points of a text, as bytes. -/
def codeBytes (s : String) : Bytes := s.toList.map fun c => UInt8.ofNat c.toNat

theorem length_codeBytes (s : String) : (codeBytes s).length = s.length := by
  rw [codeBytes, List.length_map, String.length_toList]

theorem codeBytes_injective {s t : String} (hs : ∀ c ∈ s.toList, c.toNat ≤ 0xFF)
    (ht : ∀ c ∈ t.toList, c.toNat ≤ 0xFF) (h : codeBytes s = codeBytes t) : s = t := by
  have hback {u : String} (hu : ∀ c ∈ u.toList, c.toNat ≤ 0xFF) :
      (codeBytes u).map (fun b => Char.ofNat b.toNat) = u.toList := by
    rw [codeBytes, List.map_map]
    refine (List.map_congr_left fun c hc => ?_).trans (List.map_id _)
    have hlt := Nat.lt_succ_of_le (hu c hc)
    rw [Function.comp_apply, Utf8.toNat_ofNat hlt, Char.ofNat_toNat, id]
  rw [← String.toList_inj, ← hback hs, ← hback ht, h]

/-- A number that takes a byte is written as that byte. -/
theorem zeroPadded_hexDigitsOf {n : Nat} (h : n ≤ 0xFF) :
    zeroPadded 2 (hexDigitsOf n) = hexByte (UInt8.ofNat n) := by
  rw [hexByte, Utf8.toNat_ofNat (Nat.lt_succ_of_le h)]
  by_cases hn : n < 16
  · rw [hexDigitsOf, if_pos hn, Nat.div_eq_of_lt hn, Nat.mod_eq_of_lt hn]
    rfl
  · have hhigh : n / 16 < 16 := by omega
    rw [hexDigitsOf, if_neg hn, hexDigitsOf, if_pos hhigh]
    rfl

theorem length_zeroPadded (width : Nat) (digits : List Char) :
    (zeroPadded width digits).length = max width digits.length := by
  rw [zeroPadded, List.length_append, List.length_replicate]
  omega

/-- A number that takes more than a byte takes more than two digits. -/
theorem two_lt_length_hexDigitsOf {n : Nat} (h : 0xFF < n) : 2 < (hexDigitsOf n).length := by
  rw [hexDigitsOf, if_neg (by omega), hexDigitsOf, if_neg (by omega), List.length_append,
    List.length_append]
  have hpos : 0 < (hexDigitsOf (n / 16 / 16)).length := by
    rw [hexDigitsOf]
    split <;> simp
  simp only [List.length_singleton]
  omega

/-- **A text of characters up to U+00FF is written as its bytes.** -/
theorem hexEncodeText_eq {s : String} (h : ∀ c ∈ s.toList, c.toNat ≤ 0xFF) :
    hexEncodeText s = hexEncode (codeBytes s) := by
  rw [hexEncodeText, hexEncode, codeBytes, List.flatMap_map]
  exact congrArg String.ofList (List.flatMap_congr fun c hc => zeroPadded_hexDigitsOf (h c hc))

theorem le_length_hexEncodeText (cs : List Char) :
    2 * cs.length ≤ (cs.flatMap fun c => zeroPadded 2 (hexDigitsOf c.toNat)).length := by
  induction cs with
  | nil => exact Nat.le_refl _
  | cons c cs ih =>
    rw [List.flatMap_cons, List.length_append, length_zeroPadded, List.length_cons]
    omega

theorem length_le_utf8ByteSize (cs : List Char) : cs.length ≤ (String.ofList cs).utf8ByteSize := by
  induction cs with
  | nil => exact Nat.le_refl _
  | cons c cs ih =>
    have hpos := c.utf8Size_pos
    rw [utf8ByteSize_cons, List.length_cons]
    omega

/-- **With a character above U+00FF, it takes more than two digits for each character.** -/
theorem lt_utf8ByteSize_hexEncodeText {s : String} (h : ∃ c ∈ s.toList, 0xFF < c.toNat) :
    2 * s.length < (hexEncodeText s).utf8ByteSize := by
  obtain ⟨c, hc, hwide⟩ := h
  obtain ⟨before, after, hsplit⟩ := List.append_of_mem hc
  have hbefore := le_length_hexEncodeText before
  have hafter := le_length_hexEncodeText after
  have hwide := two_lt_length_hexDigitsOf hwide
  refine Nat.lt_of_lt_of_le ?_ (length_le_utf8ByteSize _)
  rw [← String.length_toList, hsplit, List.flatMap_append, List.flatMap_cons, List.length_append,
    List.length_append, List.length_append, List.length_cons, length_zeroPadded]
  omega

end LightningLottery
