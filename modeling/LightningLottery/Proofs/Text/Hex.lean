/-
  Digits that are written for bytes and read again.

  * `hexDigit_spec`: what each of the sixteen small digits is like.
  * `hexDecode?_hexEncode`: bytes are read back from their digits.
  * `decodeHexKey_hexEncode`: so is a key of 32 bytes.
  * `asciiLower_hexEncode`, `isHeaderValue_append_hexEncode`: the digits are small letters that can be
    sent in a header.
-/
import LightningLottery.Api.Exchange
import LightningLottery.Proofs.Text.Blank
import LightningLottery.Proofs.Text.Utf8

namespace LightningLottery

/-- What a small digit is like: its value is read again, and it is visible ASCII and no capital
    letter. -/
theorem hexDigit_spec : ∀ n < 16, hexValue? (hexDigit n) = some n ∧
    (hexDigit n).toLower = hexDigit n ∧ 0x20 ≤ (hexDigit n).toNat ∧ (hexDigit n).toNat < 0x7F := by
  decide

theorem hexByte_digits (b : UInt8) : b.toNat / 16 < 16 ∧ b.toNat % 16 < 16 := by
  have hb := b.toNat_lt
  omega

theorem exists_hexDigit {bs : Bytes} {c : Char} (h : c ∈ bs.flatMap hexByte) :
    ∃ n < 16, c = hexDigit n := by
  obtain ⟨b, -, hc⟩ := List.mem_flatMap.1 h
  obtain ⟨hhigh, hlow⟩ := hexByte_digits b
  rcases List.mem_pair.1 hc with rfl | rfl
  · exact ⟨_, hhigh, rfl⟩
  · exact ⟨_, hlow, rfl⟩

theorem hexBytes?_flatMap (bs : Bytes) : hexBytes? (bs.flatMap hexByte) = some bs := by
  induction bs with
  | nil => rfl
  | cons b bs ih =>
    obtain ⟨hhigh, hlow⟩ := hexByte_digits b
    have hvalue : b.toNat / 16 * 16 + b.toNat % 16 = b.toNat := by omega
    rw [List.flatMap_cons, hexByte, List.cons_append, List.cons_append, List.nil_append, hexBytes?,
      (hexDigit_spec _ hhigh).1, (hexDigit_spec _ hlow).1, ih]
    simp only [Option.bind_eq_bind, Option.bind_some, hvalue, UInt8.ofNat_toNat]
    rfl

/-- **Bytes are read back from their digits.** -/
theorem hexDecode?_hexEncode (bs : Bytes) : hexDecode? (hexEncode bs) = some bs := by
  rw [hexDecode?, hexEncode, String.toList_ofList, hexBytes?_flatMap]

theorem hexEncode_injective {bs cs : Bytes} (h : hexEncode bs = hexEncode cs) : bs = cs := by
  have hdecode := hexDecode?_hexEncode bs
  rw [h, hexDecode?_hexEncode] at hdecode
  exact (Option.some.inj hdecode).symm

theorem asciiLower_hexEncode (bs : Bytes) : asciiLower (hexEncode bs) = hexEncode bs := by
  rw [← String.toList_inj, toList_asciiLower, hexEncode, String.toList_ofList]
  refine (List.map_congr_left fun c hc => ?_).trans (List.map_id _)
  obtain ⟨n, hn, rfl⟩ := exists_hexDigit hc
  exact (hexDigit_spec n hn).2.1

theorem length_flatMap_hexByte (bs : Bytes) : (bs.flatMap hexByte).length = 2 * bs.length := by
  induction bs with
  | nil => rfl
  | cons b bs ih =>
    rw [List.flatMap_cons, List.length_append, ih, List.length_cons, hexByte]
    simp only [List.length_cons, List.length_nil]
    omega

theorem utf8ByteSize_hexEncode {bs : Bytes} (h : bs.length = 32) :
    (hexEncode bs).utf8ByteSize = keyDigits := by
  rw [hexEncode, utf8ByteSize_ascii, length_flatMap_hexByte, h]
  · rfl
  · intro c hc
    obtain ⟨n, hn, rfl⟩ := exists_hexDigit hc
    have hlt := (hexDigit_spec n hn).2.2.2
    omega

/-- **A key is read back from its digits.** -/
theorem decodeHexKey_hexEncode {bs : Bytes} (h : bs.length = 32) :
    decodeHexKey (hexEncode bs) = .ok bs := by
  rw [decodeHexKey, if_neg (not_not.2 (utf8ByteSize_hexEncode h)), hexDecode?_hexEncode]

theorem isHexKey_hexEncode {bs : Bytes} (h : bs.length = 32) : isHexKey (hexEncode bs) = true := by
  have hne : bs.flatMap hexByte ≠ [] := by
    rw [← List.length_pos_iff, length_flatMap_hexByte, h]
    decide
  have hall : (bs.flatMap hexByte).all (fun c => (hexValue? c).isSome) = true := by
    rw [List.all_eq_true]
    intro c hc
    obtain ⟨n, hn, rfl⟩ := exists_hexDigit hc
    rw [(hexDigit_spec n hn).1]
    rfl
  rw [isHexKey, utf8ByteSize_hexEncode h, isHex, hexEncode, String.toList_ofList, hall]
  simpa using hne

/-- Digits can be sent in a header, after a text that can. -/
theorem isHeaderValue_append_hexEncode {s : String} (h : isHeaderValue s = true) (bs : Bytes) :
    isHeaderValue (s ++ hexEncode bs) = true := by
  rw [isHeaderValue, String.toList_append, List.all_append, Bool.and_eq_true]
  refine ⟨h, ?_⟩
  rw [hexEncode, String.toList_ofList, List.all_eq_true]
  intro c hc
  obtain ⟨n, hn, rfl⟩ := exists_hexDigit hc
  obtain ⟨-, -, hle, hlt⟩ := hexDigit_spec n hn
  have hne : (hexDigit n).toNat ≠ 0x7F := Nat.ne_of_lt hlt
  simp [hle, hne]

end LightningLottery
