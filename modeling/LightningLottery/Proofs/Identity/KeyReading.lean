/-
  What a key text is read as, whoever reads it.

  * `isHexDigitByte`, `nibble?`: digits as bytes. `isDigits_iff`: a text of digits is told by its bytes.
  * `pairedBytes?`, `keyOfBytes`: a key read from the bytes of a text, two of them for each of its own.
    `pairedBytes?_utf8`: this is how characters are read, in every text.
  * `isHexKey_iff_bytes`, `decodeHexKey_eq_keyOfBytes`: the test for key texts and their reader, by
    bytes alone.
  * `Denotes`: what a text is like that denotes the bytes of a key; `denotes_of_decodeHexKey`: all that
    can be read are.
  * `key_readings_agree`: the readings together.
-/
import LightningLottery.Proofs.Nickname.Place

namespace LightningLottery

/-! ## Digits as bytes -/

/-- Whether a byte is a hexadecimal digit of ASCII, in either letter case. -/
def isHexDigitByte (b : UInt8) : Bool :=
  (0x30 ≤ b && b ≤ 0x39) || (0x41 ≤ b && b ≤ 0x46) || (0x61 ≤ b && b ≤ 0x66)

/-- The four bits that a digit stands for. -/
def nibble? (b : UInt8) : Option UInt8 :=
  if 0x41 ≤ b && b ≤ 0x46 then some (b - 0x41 + 10)
  else if 0x61 ≤ b && b ≤ 0x66 then some (b - 0x61 + 10)
  else if 0x30 ≤ b && b ≤ 0x39 then some (b - 0x30)
  else none

/-- The bytes that pairs of digits denote. -/
def pairedBytes? : Bytes → Option Bytes
  | [] => some []
  | [_] => none
  | b :: c :: rest => do
    let high ← nibble? b
    let low ← nibble? c
    let bytes ← pairedBytes? rest
    return (high <<< 4 ||| low) :: bytes

/-- The key that the bytes of a text denote. -/
def keyOfBytes (bs : Bytes) : Except KeyFault Bytes :=
  if bs.length ≠ keyDigits then .error .length
  else (pairedBytes? bs).elim (.error .digits) .ok

theorem isHexDigitByte_of_nibble? {b n : UInt8} (h : nibble? b = some n) :
    isHexDigitByte b = true := by
  unfold nibble? at h
  unfold isHexDigitByte
  split_ifs at h with hcapital hsmall hdecimal
  · rw [hcapital, Bool.or_true, Bool.true_or]
  · rw [hsmall, Bool.or_true]
  · rw [hdecimal, Bool.true_or, Bool.true_or]

theorem digit_byte_spec {c : Char} (h : c ∈ hexDigits) :
    isHexDigitByte (UInt8.ofNat c.toNat) = true ∧
      nibble? (UInt8.ofNat c.toNat) = (hexValue? c).map UInt8.ofNat := by
  have hall : hexDigits.all (fun c => isHexDigitByte (UInt8.ofNat c.toNat) &&
      nibble? (UInt8.ofNat c.toNat) == (hexValue? c).map UInt8.ofNat) = true := by
    decide
  have hspec := List.all_eq_true.1 hall c h
  rwa [Bool.and_eq_true, beq_iff_eq] at hspec

theorem mem_hexDigits_of_byte {c : Char} (hc : c.toNat < 128)
    (h : isHexDigitByte (UInt8.ofNat c.toNat) = true) : c ∈ hexDigits := by
  have hall : ∀ n < 128, isHexDigitByte (UInt8.ofNat n) = true → Char.ofNat n ∈ hexDigits := by
    decide +kernel
  have hdigit := hall c.toNat hc h
  rwa [Char.ofNat_toNat] at hdigit

/-! ## Texts as bytes -/

variable {s t : String} {key : Bytes}

theorem utf8_of_isDigits (h : IsDigits s) :
    utf8 s = s.toList.map fun c => UInt8.ofNat c.toNat := by
  have hbytes := @Utf8.utf8_ascii s.toList fun c hc => (digit_spec (h c hc)).1
  rwa [String.ofList_toList] at hbytes

theorem ascii_of_isHexDigitByte {b : UInt8} (h : isHexDigitByte b = true) : b.toNat < 128 := by
  simp only [isHexDigitByte, Bool.or_eq_true, Bool.and_eq_true, decide_eq_true_eq,
    UInt8.le_iff_toNat_le] at h
  rcases h with (⟨-, h⟩ | ⟨-, h⟩) | ⟨-, h⟩ <;> exact Nat.lt_of_le_of_lt h (by decide)

/-- **Digits are told by their bytes**: no byte of another character is one. -/
theorem isDigits_iff : IsDigits s ↔ ∀ b ∈ utf8 s, isHexDigitByte b = true := by
  constructor
  · intro h b hb
    rw [utf8_of_isDigits h] at hb
    obtain ⟨c, hc, rfl⟩ := List.mem_map.1 hb
    exact (digit_byte_spec (h c hc)).1
  · intro h c hc
    have hascii := Utf8.ascii_of_utf8 fun b hb => ascii_of_isHexDigitByte (h b hb)
    refine mem_hexDigits_of_byte (hascii c hc) (h _ (List.mem_flatMap.2 ⟨c, hc, ?_⟩))
    rw [Utf8.encode_ascii (hascii c hc)]
    exact List.mem_singleton_self _

theorem digits_of_pairedBytes? {bs : Bytes} (h : pairedBytes? bs = some key) :
    ∀ b ∈ bs, isHexDigitByte b = true := by
  induction bs using pairedBytes?.induct generalizing key with
  | case1 => nofun
  | case2 b => cases h
  | case3 b c rest ih =>
    obtain ⟨high, hhigh, h⟩ := Option.bind_eq_some_iff.1 h
    obtain ⟨low, hlow, h⟩ := Option.bind_eq_some_iff.1 h
    obtain ⟨bytes, hbytes, -⟩ := Option.bind_eq_some_iff.1 h
    intro d hd
    rcases List.mem_cons.1 hd with rfl | hd
    · exact isHexDigitByte_of_nibble? hhigh
    rcases List.mem_cons.1 hd with rfl | hd
    · exact isHexDigitByte_of_nibble? hlow
    · exact ih hbytes d hd

/-- The first digit of a pair is shifted by four bits. -/
theorem pair_eq {high low : Nat} (hhigh : high < 16) (hlow : low < 16) :
    UInt8.ofNat high <<< 4 ||| UInt8.ofNat low = UInt8.ofNat (high * 16 + low) := by
  have hall : ∀ high < 16, ∀ low < 16,
      UInt8.ofNat high <<< 4 ||| UInt8.ofNat low = UInt8.ofNat (high * 16 + low) := by
    decide +kernel
  exact hall high hhigh low hlow

theorem pairedBytes?_map {cs : List Char} (h : ∀ c ∈ cs, c ∈ hexDigits) :
    pairedBytes? (cs.map fun c => UInt8.ofNat c.toNat) = hexBytes? cs := by
  induction cs using hexBytes?.induct with
  | case1 => rfl
  | case2 c => rfl
  | case3 c d rest ih =>
    have hc := h c List.mem_cons_self
    have hd := h d (List.mem_cons_of_mem _ List.mem_cons_self)
    have hrest := ih fun e he => h e (List.mem_cons_of_mem _ (List.mem_cons_of_mem _ he))
    obtain ⟨-, high, hhigh, hcvalue, -⟩ := digit_spec hc
    obtain ⟨-, low, hlow, hdvalue, -⟩ := digit_spec hd
    simp only [List.map_cons, pairedBytes?, hexBytes?, (digit_byte_spec hc).2,
      (digit_byte_spec hd).2, hcvalue, hdvalue, hrest, Option.map_some, Option.bind_eq_bind,
      Option.bind_some, pair_eq hhigh hlow]

/-- **Reading pairs of bytes is reading pairs of characters**, in every text. -/
theorem pairedBytes?_utf8 (s : String) : pairedBytes? (utf8 s) = hexDecode? s := by
  by_cases hdigits : IsDigits s
  · rw [utf8_of_isDigits hdigits, pairedBytes?_map hdigits, hexDecode?]
  · have hbytes : pairedBytes? (utf8 s) = none := by
      refine Option.eq_none_iff_forall_ne_some.2 fun bs h => hdigits ?_
      exact isDigits_iff.2 (digits_of_pairedBytes? h)
    have hchars : hexDecode? s = none := by
      refine Option.eq_none_iff_forall_ne_some.2 fun bs h => hdigits ?_
      exact (of_hexBytes?_eq_some h).2
    rw [hbytes, hchars]

/-! ## Key texts -/

theorem decodeHexKey_eq_keyOfBytes (s : String) : decodeHexKey s = keyOfBytes (utf8 s) := by
  rw [decodeHexKey, keyOfBytes, pairedBytes?_utf8, length_utf8]
  cases hexDecode? s <;> rfl

theorem isHexKey_iff_bytes :
    isHexKey s = true ↔ (utf8 s).length = 64 ∧ ∀ b ∈ utf8 s, isHexDigitByte b = true := by
  rw [isHexKey_iff, IsKeyText, ← isDigits_iff, length_utf8]
  exact and_congr_left fun hdigits => by rw [hdigits.utf8ByteSize]

/-- **`decodeHexKey` succeeds exactly on the key texts.** -/
theorem exists_decodeHexKey_iff_isHexKey :
    (∃ key, decodeHexKey s = .ok key) ↔ isHexKey s = true :=
  exists_decodeHexKey_iff.trans isHexKey_iff.symm

theorem decodeHexKey_congr (h : eqIgnoringCase s t = true) : decodeHexKey s = decodeHexKey t := by
  rw [← decodeHexKey_asciiLower s, eqIgnoringCase_iff.1 h, decodeHexKey_asciiLower]

/-- What a text is like that denotes the bytes of a key. -/
structure Denotes (s : String) (key : Bytes) : Prop where
  length : key.length = 32
  written : hexEncode key = asciiLower s
  /-- The texts that denote the same are those that differ in letter case alone. -/
  others : ∀ t, decodeHexKey t = .ok key ↔ eqIgnoringCase t s = true
  /-- The digits, as one number, are the number of the bytes. -/
  number : hexNumber (NicknamePool.keyDigitsOf s) = bigEndian key
  nickname : ∀ pool : NicknamePool, pool.nickname s = pool.nameAt (pool.indexOfNumber (bigEndian key))
  publicKey : publicKeyOf s = .ok (hexEncode (Ed25519.publicKey key))

theorem denotes_of_decodeHexKey (h : decodeHexKey s = .ok key) : Denotes s key := by
  obtain ⟨hlength, hsmall⟩ := decodeHexKey_eq_ok_iff.1 h
  have hkey : isHexKey s = true := exists_decodeHexKey_iff_isHexKey.1 ⟨key, h⟩
  have hnumber : hexNumber (NicknamePool.keyDigitsOf s) = bigEndian key := by
    rw [NicknamePool.keyDigitsOf, if_pos hkey, ← hexNumber_asciiLower, hsmall, hexNumber_hexEncode]
  refine ⟨hlength, hsmall.symm, fun t => ?_, hnumber, fun pool => ?_, ?_⟩
  · rw [decodeHexKey_eq_ok_iff, eqIgnoringCase_iff, hsmall]
    exact and_iff_right hlength
  · rw [NicknamePool.nickname, NicknamePool.indexOf, hnumber]
  · rw [← publicKeyOf_asciiLower, hsmall, publicKeyOf_hexEncode hlength]

/-- **`decodeHexKey`, `isHexKey` and `keyOfBytes` agree on every text.** Key texts are told by their
    bytes, whatever the letter case; a text that can be read denotes 32 bytes (`Denotes`), and 32
    bytes are read back from their digits. Nickname and public key depend on the bytes alone. -/
theorem key_readings_agree :
    (∀ s : String,
      ((∃ key, decodeHexKey s = .ok key) ↔ isHexKey s = true) ∧
      (isHexKey s = true ↔ (utf8 s).length = 64 ∧ ∀ b ∈ utf8 s, isHexDigitByte b = true) ∧
      decodeHexKey s = keyOfBytes (utf8 s) ∧
      decodeHexKey (asciiUpper s) = decodeHexKey (asciiLower s) ∧
      ∀ key, decodeHexKey s = .ok key → Denotes s key) ∧
    (∀ key : Bytes, key.length = 32 → decodeHexKey (hexEncode key) = .ok key) ∧
    ∀ (s t : String) (key : Bytes), decodeHexKey s = .ok key → decodeHexKey t = .ok key →
      nicknameOf s = nicknameOf t ∧ publicKeyOf s = publicKeyOf t := by
  refine ⟨fun s => ?_, fun key => decodeHexKey_hexEncode, fun s t key hs ht => ?_⟩
  · have hcase : eqIgnoringCase (asciiUpper s) (asciiLower s) = true := by
      rw [eqIgnoringCase_iff, asciiLower_asciiUpper, asciiLower_asciiLower]
    exact ⟨exists_decodeHexKey_iff_isHexKey, isHexKey_iff_bytes, decodeHexKey_eq_keyOfBytes s,
      decodeHexKey_congr hcase, fun key => denotes_of_decodeHexKey⟩
  · have hs := denotes_of_decodeHexKey hs
    have ht := denotes_of_decodeHexKey ht
    exact ⟨(hs.nickname _).trans (ht.nickname _).symm, hs.publicKey.trans ht.publicKey.symm⟩

/-- A key text in small letters. -/
def smallKey : String := "f73a68a323bca465ad2dd2cab8df07d5bb854984277d6354e3c16764e9ddd079"

/-- A key in capital letters has the same nickname and public key. -/
theorem key_readings_agree_capitals :
    ∃ key, decodeHexKey smallKey = .ok key ∧ decodeHexKey (asciiUpper smallKey) = .ok key ∧
      nicknameOf (asciiUpper smallKey) = "WaryBaron635" ∧
      publicKeyOf (asciiUpper smallKey) = publicKeyOf smallKey := by
  obtain ⟨hreadable, -, -, hcase, hdenotes⟩ := key_readings_agree.1 smallKey
  obtain ⟨key, hkey⟩ := hreadable.2 (by decide +kernel)
  have hcapitals : decodeHexKey (asciiUpper smallKey) = .ok key := by
    rw [hcase, decodeHexKey_asciiLower, hkey]
  obtain ⟨hname, hpublic⟩ := key_readings_agree.2.2 _ _ key hcapitals hkey
  have hsmall : nicknameOf smallKey = "WaryBaron635" := by decide +kernel
  exact ⟨key, hkey, hcapitals, hname.trans hsmall, hpublic⟩

end LightningLottery
