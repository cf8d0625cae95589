/-
  Bytes as Bech32 texts, and back.

  * `encode_eq`: the text of a human-readable part and words.
  * `encodeBounded_eq`: the text of bytes, or how much longer it is than allowed.
  * `encodeBounded_inverse`: what is written is read again in either letter case, and what is read
    is written again in small letters.
-/
import LightningLottery.Lnurl
import LightningLottery.Proofs.Bech32.Reading
import LightningLottery.Proofs.Bech32.Regrouping
import LightningLottery.Proofs.Text.LetterCase

namespace LightningLottery.Bech32

/-! ## Written texts -/

theorem ascii_written {hrp : List Char} (h : ∀ c ∈ hrp, c.toNat < 128) (words : List Word) :
    ∀ c ∈ (written hrp words).toList, c.toNat < 128 := by
  rw [toList_written, List.forall_mem_append, List.forall_mem_cons, List.forall_mem_map]
  exact ⟨h, by decide, fun w _ => (charOf_spec w).1⟩

theorem length_written (hrp : List Char) (words : List Word) :
    (written hrp words).length = hrp.length + 1 + words.length := by
  rw [← String.length_toList, toList_written, List.length_append, List.length_cons,
    List.length_map]
  omega

/-! ## Texts of words -/

/-- The text of a human-readable part and words: it ends with their checksum. -/
theorem encode_eq {hrp : String} (h : IsHrp hrp) (ws : List Word) :
    encode hrp ws = .ok (written (asciiLower hrp).toList
      (ws ++ checksum (asciiLower hrp).toList ws)) := by
  obtain ⟨shown, hshown⟩ := h.exists_checkHrp
  rw [encode, hshown, toList_asciiLower]
  rfl

theorem IsHrp.small {hrp : String} (h : IsHrp hrp) : IsHrp (asciiLower hrp) := by
  have hlower := (isHrp_toLower_iff h.oneCase).2 (by rwa [String.ofList_toList])
  rwa [← toList_asciiLower, String.ofList_toList] at hlower

theorem asciiLower_encode {hrp text : String} {ws : List Word} (h : IsHrp hrp)
    (htext : encode hrp ws = .ok text) : asciiLower text = text := by
  rw [encode_eq h] at htext
  cases htext
  refine asciiLower_written ?_ _
  rw [← toList_asciiLower, asciiLower_asciiLower]

/-- **Decoding an encoded text gives its words.** -/
theorem decode_encode {hrp text : String} {ws : List Word} (h : IsHrp hrp)
    (htext : encode hrp ws = .ok text) : decode text = .ok (asciiLower hrp, ws) := by
  have hsmall : (asciiLower hrp).toList.map Char.toLower = (asciiLower hrp).toList := by
    rw [← toList_asciiLower, asciiLower_asciiLower]
  have hread := decode_written (by rw [String.ofList_toList]; exact h.small) hsmall ws
  rw [encode_eq h] at htext
  rw [← Except.ok.inj htext, hread, String.ofList_toList]

/-- **Encoding decoded words gives the text** in small letters. -/
theorem encode_decode {s hrp : String} {ws : List Word} (h : decode s = .ok (hrp, ws)) :
    encode hrp ws = .ok (asciiLower s) := by
  obtain ⟨hhrp, -, hlower⟩ := decode_eq_ok_iff.1 h
  have hsmall : asciiLower hrp = hrp := by
    obtain ⟨front, words, -, -, -, rfl, -⟩ := exists_hasParts h
    rw [← String.ofList_toList (s := asciiLower _), toList_asciiLower, String.toList_ofList,
      List.map_map]
    exact congrArg _ (List.map_congr_left fun c _ => Char.toLower_toLower_eq_toLower c)
  rw [encode_eq hhrp, hsmall, hlower]

theorem utf8ByteSize_of_decode {s hrp : String} {ws : List Word} (h : decode s = .ok (hrp, ws)) :
    s.utf8ByteSize = s.length := by
  obtain ⟨hhrp, -, hlower⟩ := decode_eq_ok_iff.1 h
  have hascii : ∀ c ∈ s.toList, c.toNat < 128 := fun c hc => ascii_of_toLower (by
    refine ascii_written hhrp.ascii (ws ++ checksum hrp.toList ws) _ ?_
    rw [← hlower, toList_asciiLower]
    exact List.mem_map_of_mem hc)
  rw [← String.length_toList, ← utf8ByteSize_ascii _ hascii, String.ofList_toList]

theorem decode_asciiUpper {s hrp : String} {ws : List Word} (h : decode s = .ok (hrp, ws)) :
    decode (asciiUpper s) = .ok (hrp, ws) := by
  refine decode_congr h ?_ (asciiLower_asciiUpper s)
  rw [asciiUpper, String.toList_map]
  exact oneCase_toUpper s.toList

/-! ## Texts of bytes -/

/-- The number of characters of the text of bytes: the human-readable part, the separator, a
    character for every five bits, and the checksum. -/
def encodedLength (hrp : String) (payload : Bytes) : Nat :=
  hrp.utf8ByteSize + 1 + (8 * payload.length + 4) / 5 + checksumLength

theorem length_encode {hrp text : String} {payload : Bytes} (h : IsHrp hrp)
    (htext : encode hrp (wordsOfBytes payload) = .ok text) :
    text.length = encodedLength hrp payload := by
  rw [encode_eq h] at htext
  cases htext
  have hsize : hrp.utf8ByteSize = (asciiLower hrp).toList.length := by
    rw [toList_asciiLower, List.length_map, ← utf8ByteSize_ascii _ h.ascii, String.ofList_toList]
  rw [length_written, List.length_append, length_checksum, length_wordsOfBytes, encodedLength,
    hsize]
  omega

theorem encodeBounded_eq {hrp : String} (h : IsHrp hrp) (payload : Bytes) (max : Nat) :
    ∃ text, encode hrp (wordsOfBytes payload) = .ok text ∧
      encodeBounded hrp payload max =
        if max < encodedLength hrp payload
        then .error (.validation (.urlTooLong (encodedLength hrp payload) max))
        else .ok text := by
  refine ⟨_, encode_eq h _, ?_⟩
  have hlength := length_encode h (encode_eq h (wordsOfBytes payload))
  simp only [encodeBounded, encode_eq h, hlength]

theorem encodeBounded_eq_ok_iff {hrp s : String} (h : IsHrp hrp) {payload : Bytes} {max : Nat} :
    encodeBounded hrp payload max = .ok s ↔
      encodedLength hrp payload ≤ max ∧ encode hrp (wordsOfBytes payload) = .ok s := by
  obtain ⟨text, htext, heq⟩ := encodeBounded_eq h payload max
  rw [heq, htext, ← Nat.not_lt]
  split
  · next hlong => simp [hlong]
  · next hfits => simp [hfits]

/-- The text of bytes is read as those bytes, in small letters and in capital ones. -/
theorem read_of_encode {hrp text : String} {payload : Bytes} (h : IsHrp hrp)
    (htext : encode hrp (wordsOfBytes payload) = .ok text) :
    ∀ t ∈ [text, asciiUpper text],
      ∃ ws, decode t = .ok (asciiLower hrp, ws) ∧ isPadded ws = true ∧
        bytesOfWords ws = payload := by
  have hread := decode_encode h htext
  have hends := isPadded_wordsOfBytes payload
  have hbytes := bytesOfWords_wordsOfBytes payload
  intro t ht
  rcases List.mem_pair.1 ht with rfl | rfl
  · exact ⟨_, hread, hends, hbytes⟩
  · exact ⟨_, decode_asciiUpper hread, hends, hbytes⟩

/-- The bytes of a text that decodes to padded words are encoded as that text in small letters,
    within its own length. -/
theorem encodeBounded_of_decode {s hrp : String} {ws : List Word} (hread : decode s = .ok (hrp, ws))
    (hends : isPadded ws = true) :
    encodeBounded hrp (bytesOfWords ws) s.utf8ByteSize = .ok (asciiLower s) := by
  obtain ⟨hhrp, -, -⟩ := decode_eq_ok_iff.1 hread
  have htext : encode hrp (wordsOfBytes (bytesOfWords ws)) = .ok (asciiLower s) := by
    rw [wordsOfBytes_bytesOfWords hends, encode_decode hread]
  have hlength := length_encode hhrp htext
  rw [asciiLower, String.length_map, ← utf8ByteSize_of_decode hread] at hlength
  exact (encodeBounded_eq_ok_iff hhrp).2 ⟨hlength.ge, htext⟩

/-- **`encodeBounded` and `decode` are inverse.** Bytes have a text exactly if its length is within
    the bound; it is in small letters, and decodes to the bytes, in capital letters too. A text that
    decodes to padded words is encoded again as itself in small letters. -/
theorem encodeBounded_inverse :
    (∀ (hrp : String) (payload : Bytes) (max : Nat), IsHrp hrp →
      ((∃ s, encodeBounded hrp payload max = .ok s) ↔ encodedLength hrp payload ≤ max) ∧
      (max < encodedLength hrp payload → encodeBounded hrp payload max =
        .error (.validation (.urlTooLong (encodedLength hrp payload) max))) ∧
      ∀ s, encodeBounded hrp payload max = .ok s →
        s.utf8ByteSize = encodedLength hrp payload ∧ asciiLower s = s ∧
          ∀ t ∈ [s, asciiUpper s],
            ∃ ws, decode t = .ok (asciiLower hrp, ws) ∧ isPadded ws = true ∧
              bytesOfWords ws = payload) ∧
    ∀ (s hrp : String) (ws : List Word), decode s = .ok (hrp, ws) → isPadded ws = true →
      encodeBounded hrp (bytesOfWords ws) s.utf8ByteSize = .ok (asciiLower s) := by
  refine ⟨fun hrp payload max h => ⟨?_, fun hlong => ?_, fun s hs => ?_⟩,
    fun s hrp ws => encodeBounded_of_decode⟩
  · simp only [encodeBounded_eq_ok_iff h, exists_and_left]
    exact and_iff_left ⟨_, encode_eq h _⟩
  · obtain ⟨text, -, heq⟩ := encodeBounded_eq h payload max
    rw [heq, if_pos hlong]
  · obtain ⟨-, htext⟩ := (encodeBounded_eq_ok_iff h).1 hs
    refine ⟨?_, asciiLower_encode h htext, read_of_encode h htext⟩
    rw [utf8ByteSize_of_decode (decode_encode h htext), length_encode h htext]

/-- Three bytes of five words, under a human-readable part that ends with a separator. -/
theorem encodeBounded_inverse_three :
    IsHrp (String.ofList ['L', '1']) ∧
      ∃ s ws, encodeBounded (String.ofList ['L', '1']) [0, 255, 46] 14 = .ok s ∧
        decode (asciiUpper s) = .ok (asciiLower (String.ofList ['L', '1']), ws) ∧
        bytesOfWords ws = [0, 255, 46] ∧ isPadded ws = true ∧
        encodeBounded (asciiLower (String.ofList ['L', '1'])) [0, 255, 46]
          (asciiUpper s).utf8ByteSize = .ok (asciiLower (asciiUpper s)) := by
  have hhrp : IsHrp (String.ofList ['L', '1']) :=
    isHrp_ofList_iff.2 ⟨by decide, by decide, by simp, Or.inr (by simp)⟩
  obtain ⟨hok, -, hread⟩ := encodeBounded_inverse.1 _ [0, 255, 46] 14 hhrp
  obtain ⟨s, hs⟩ := hok.2 (by decide +kernel)
  obtain ⟨-, -, hforms⟩ := hread s hs
  obtain ⟨ws, hdecode, hends, hbytes⟩ := hforms (asciiUpper s) (by simp)
  exact ⟨hhrp, s, ws, hs, hdecode, hbytes, hends,
    hbytes ▸ encodeBounded_inverse.2 _ _ ws hdecode hends⟩

end LightningLottery.Bech32
