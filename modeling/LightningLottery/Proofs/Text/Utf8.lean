/-
  Text that is written as bytes and read again.

  * `Utf8.step_two`, `Utf8.step_three`, `Utf8.step_four`: the characters of several bytes.
  * `Utf8.step_encode`: a character is read off the front of its bytes, whatever follows.
  * `Utf8.decode_utf8`: reading undoes writing.
  * `Utf8.le_of_mem_encode`: the bytes of a character beyond ASCII are beyond ASCII.
  * `Utf8.utf8_ascii`: the bytes of a text of ASCII are its characters.
-/
import LightningLottery.Text.Utf8
import Mathlib.Tactic.SplitIfs

namespace LightningLottery.Utf8

/-! ## Bytes as numbers -/

theorem toNat_ofNat {n : Nat} (h : n < 256) : (UInt8.ofNat n).toNat = n := by
  rw [UInt8.toNat_ofNat']
  exact Nat.mod_eq_of_lt h

theorem isTail_iff {b : UInt8} : isTail b = true ↔ 128 ≤ b.toNat ∧ b.toNat ≤ 191 := by
  simp [isTail, UInt8.le_iff_toNat_le]

theorem owed_eq (b : UInt8) :
    owed b =
      if 194 ≤ b.toNat ∧ b.toNat ≤ 223 then some 1
      else if 224 ≤ b.toNat ∧ b.toNat ≤ 239 then some 2
      else if 240 ≤ b.toNat ∧ b.toNat ≤ 244 then some 3
      else none := by
  simp [owed, UInt8.le_iff_toNat_le]

/-- A continuation byte fits second, unless the lead byte is one of the four that ask for more. -/
theorem secondFits_of_isTail {b c : UInt8} (hc : isTail c = true)
    (he0 : b.toNat = 0xE0 → 0xA0 ≤ c.toNat) (hed : b.toNat = 0xED → c.toNat ≤ 0x9F)
    (hf0 : b.toNat = 0xF0 → 0x90 ≤ c.toNat) (hf4 : b.toNat = 0xF4 → c.toNat ≤ 0x8F) :
    secondFits b c = true := by
  have htail := isTail_iff.1 hc
  simp only [secondFits, beq_iff_eq, ← UInt8.toNat_inj]
  split_ifs with h1 h2 h3 h4
  · simp only [UInt8.le_iff_toNat_le, Bool.and_eq_true, decide_eq_true_eq]
    exact ⟨he0 h1, htail.2⟩
  · simp only [UInt8.le_iff_toNat_le, Bool.and_eq_true, decide_eq_true_eq]
    exact ⟨htail.1, hed h2⟩
  · simp only [UInt8.le_iff_toNat_le, Bool.and_eq_true, decide_eq_true_eq]
    exact ⟨hf0 h3, htail.2⟩
  · simp only [UInt8.le_iff_toNat_le, Bool.and_eq_true, decide_eq_true_eq]
    exact ⟨htail.1, hf4 h4⟩
  · exact hc

/-! ## One character -/

theorem step_one {b : UInt8} (hb : b.toNat < 128) (rest : Bytes) :
    step (b :: rest) = .char (Char.ofNat b.toNat) rest := by
  have h : b < 0x80 := UInt8.lt_iff_toNat_lt.2 hb
  simp only [step, h, if_true]

theorem not_ascii_of_owed {b : UInt8} {n : Nat} (h : owed b = some n) : ¬ b < 0x80 := by
  rw [UInt8.lt_iff_toNat_lt]
  intro hlt
  have hlt : b.toNat < 128 := hlt
  rw [owed_eq, if_neg (by omega), if_neg (by omega), if_neg (by omega)] at h
  cases h

theorem step_two {b c : UInt8} (hb : 194 ≤ b.toNat ∧ b.toNat ≤ 223) (hc : isTail c = true)
    (rest : Bytes) :
    step (b :: c :: rest) = .char (Char.ofNat (b.toNat % 32 * 64 + low6 c)) rest := by
  have ho : owed b = some 1 := by rw [owed_eq, if_pos hb]
  have hfits := secondFits_of_isTail (b := b) hc (by omega) (by omega) (by omega) (by omega)
  simp only [step, not_ascii_of_owed ho, ho, hfits, if_false, Bool.not_true, Bool.false_eq_true,
    beq_self_eq_true, if_true]

theorem step_three {b c d : UInt8} (hb : 224 ≤ b.toNat ∧ b.toNat ≤ 239)
    (hc : secondFits b c = true) (hd : isTail d = true) (rest : Bytes) :
    step (b :: c :: d :: rest) =
      .char (Char.ofNat ((b.toNat % 16 * 64 + low6 c) * 64 + low6 d)) rest := by
  have ho : owed b = some 2 := by rw [owed_eq, if_neg (by omega), if_pos hb]
  simp [step, not_ascii_of_owed ho, ho, hc, hd]

theorem step_four {b c d e : UInt8} (hb : 240 ≤ b.toNat ∧ b.toNat ≤ 244)
    (hc : secondFits b c = true) (hd : isTail d = true) (he : isTail e = true) (rest : Bytes) :
    step (b :: c :: d :: e :: rest) =
      .char (Char.ofNat (((b.toNat % 8 * 64 + low6 c) * 64 + low6 d) * 64 + low6 e)) rest := by
  have ho : owed b = some 3 := by rw [owed_eq, if_neg (by omega), if_neg (by omega), if_pos hb]
  simp [step, not_ascii_of_owed ho, ho, hc, hd, he]

/-- The code point of a character is below the end of Unicode, and no surrogate. -/
theorem scalar (c : Char) :
    c.val.toNat < 0xD800 ∨ 0xDFFF < c.val.toNat ∧ c.val.toNat < 0x110000 := c.valid

theorem isTail_ofNat (n : Nat) : isTail (UInt8.ofNat (n % 64 + 128)) = true := by
  rw [isTail_iff, toNat_ofNat (by omega)]
  omega

theorem low6_ofNat (n : Nat) : low6 (UInt8.ofNat (n % 64 + 128)) = n % 64 := by
  rw [low6, toNat_ofNat (by omega)]
  omega

/-- **A character is read off the front of its bytes**, whatever follows. -/
theorem step_encode (c : Char) (rest : Bytes) :
    step (String.utf8EncodeChar c ++ rest) = .char c rest := by
  have hscalar := scalar c
  have hofNat : Char.ofNat c.val.toNat = c := Char.ofNat_toNat c
  unfold String.utf8EncodeChar
  generalize c.val.toNat = n at hscalar hofNat
  simp only
  split_ifs with h1 h2 h3
  · have hn := toNat_ofNat (show n < 256 by omega)
    rw [List.singleton_append, step_one (by omega), hn, hofNat]
  · have hlead := toNat_ofNat (show n / 64 % 32 + 192 < 256 by omega)
    rw [List.cons_append, List.singleton_append,
      step_two (by rw [hlead]; omega) (isTail_ofNat n), hlead, low6_ofNat,
      show (n / 64 % 32 + 192) % 32 * 64 + n % 64 = n by omega, hofNat]
  · have hlead := toNat_ofNat (show n / 4096 % 16 + 224 < 256 by omega)
    have hsecond := toNat_ofNat (show n / 64 % 64 + 128 < 256 by omega)
    have hfits : secondFits (UInt8.ofNat (n / 4096 % 16 + 224))
        (UInt8.ofNat (n / 64 % 64 + 128)) = true := by
      refine secondFits_of_isTail (isTail_ofNat _) ?_ ?_ ?_ ?_ <;> rw [hlead, hsecond] <;> omega
    rw [List.cons_append, List.cons_append, List.singleton_append,
      step_three (by rw [hlead]; omega) hfits (isTail_ofNat n), hlead, low6_ofNat, low6_ofNat,
      show ((n / 4096 % 16 + 224) % 16 * 64 + n / 64 % 64) * 64 + n % 64 = n by omega, hofNat]
  · have hlead := toNat_ofNat (show n / 262144 % 8 + 240 < 256 by omega)
    have hsecond := toNat_ofNat (show n / 4096 % 64 + 128 < 256 by omega)
    have hfits : secondFits (UInt8.ofNat (n / 262144 % 8 + 240))
        (UInt8.ofNat (n / 4096 % 64 + 128)) = true := by
      refine secondFits_of_isTail (isTail_ofNat _) ?_ ?_ ?_ ?_ <;> rw [hlead, hsecond] <;> omega
    rw [List.cons_append, List.cons_append, List.cons_append, List.singleton_append,
      step_four (by rw [hlead]; omega) hfits (isTail_ofNat _) (isTail_ofNat n), hlead,
      low6_ofNat, low6_ofNat, low6_ofNat,
      show (((n / 262144 % 8 + 240) % 8 * 64 + n / 4096 % 64) * 64 + n / 64 % 64) * 64 + n % 64 = n
        by omega, hofNat]

/-! ## Texts -/

theorem strictChars_encode (cs : List Char) (read : Nat) :
    strictChars read (cs.flatMap String.utf8EncodeChar) = .ok cs := by
  induction cs generalizing read with
  | nil => rw [strictChars]; rfl
  | cons c cs ih =>
    rw [List.flatMap_cons, strictChars]
    split
    · next h => rw [step_encode] at h; cases h
    · next c' rest h =>
      rw [step_encode] at h
      cases h
      rw [ih]
      rfl
    · next h => rw [step_encode] at h; cases h
    · next h => rw [step_encode] at h; cases h

/-- **Reading undoes writing.** -/
theorem decode_utf8 (s : String) : decode (utf8 s) = .ok s := by
  rw [decode, utf8, strictChars_encode]
  exact congrArg Except.ok String.ofList_toList

theorem le_of_mem_encode {c : Char} (hc : 128 ≤ c.toNat) {b : UInt8}
    (hb : b ∈ String.utf8EncodeChar c) : 128 ≤ b.toNat := by
  have hscalar := scalar c
  have hc : 128 ≤ c.val.toNat := hc
  unfold String.utf8EncodeChar at hb
  generalize c.val.toNat = n at hscalar hc hb
  simp only at hb
  have hmem {k : Nat} (hk : 128 ≤ k) (hlt : k < 256) (h : b = UInt8.ofNat k) : 128 ≤ b.toNat := by
    rw [h, toNat_ofNat hlt]
    exact hk
  split_ifs at hb with h1 h2 h3
  · omega
  · simp only [List.mem_cons, List.not_mem_nil, or_false] at hb
    rcases hb with h | h <;> exact hmem (by omega) (by omega) h
  · simp only [List.mem_cons, List.not_mem_nil, or_false] at hb
    rcases hb with h | h | h <;> exact hmem (by omega) (by omega) h
  · simp only [List.mem_cons, List.not_mem_nil, or_false] at hb
    rcases hb with h | h | h | h <;> exact hmem (by omega) (by omega) h

theorem encode_ascii {c : Char} (hc : c.toNat < 128) :
    String.utf8EncodeChar c = [UInt8.ofNat c.toNat] := by
  have hc : c.val.toNat ≤ 127 := Nat.le_of_lt_succ hc
  simp only [String.utf8EncodeChar, hc, if_true]
  rfl

/-! ## Texts of ASCII -/

theorem ascii_of_utf8 {s : String} (h : ∀ b ∈ utf8 s, b.toNat < 128) :
    ∀ c ∈ s.toList, c.toNat < 128 := by
  intro c hc
  refine Nat.lt_of_not_le fun hge => ?_
  obtain ⟨b, hb⟩ := List.exists_mem_of_ne_nil _ (String.utf8EncodeChar_ne_nil (c := c))
  have hlt := h b (List.mem_flatMap.2 ⟨c, hc, hb⟩)
  have hle := le_of_mem_encode hge hb
  omega

theorem utf8_ascii {cs : List Char} (h : ∀ c ∈ cs, c.toNat < 128) :
    utf8 (String.ofList cs) = cs.map fun c => UInt8.ofNat c.toNat := by
  rw [utf8, String.toList_ofList]
  induction cs with
  | nil => rfl
  | cons c cs ih =>
    rw [List.flatMap_cons, encode_ascii (h c List.mem_cons_self), List.singleton_append,
      List.map_cons, ih fun d hd => h d (List.mem_cons_of_mem _ hd)]

end LightningLottery.Utf8

namespace LightningLottery

theorem utf8ByteSize_cons (c : Char) (cs : List Char) :
    (String.ofList (c :: cs)).utf8ByteSize = c.utf8Size + (String.ofList cs).utf8ByteSize := by
  rw [← List.singleton_append, String.ofList_append, String.utf8ByteSize_append,
    ← String.singleton_eq_ofList, String.utf8ByteSize_singleton]

theorem length_utf8 (s : String) : (utf8 s).length = s.utf8ByteSize := by
  have hchars : ∀ cs : List Char, (utf8 (String.ofList cs)).length =
      (String.ofList cs).utf8ByteSize := by
    intro cs
    rw [utf8, String.toList_ofList]
    induction cs with
    | nil => rfl
    | cons c cs ih =>
      rw [List.flatMap_cons, List.length_append, ih, utf8ByteSize_cons, String.length_utf8EncodeChar]
  have hlength := hchars s.toList
  rwa [String.ofList_toList] at hlength

theorem utf8ByteSize_ascii (cs : List Char) (h : ∀ c ∈ cs, c.toNat < 128) :
    (String.ofList cs).utf8ByteSize = cs.length := by
  induction cs with
  | nil => rfl
  | cons c cs ih =>
    have hone : c.utf8Size = 1 := by
      rw [Char.utf8Size_eq_one_iff, UInt32.le_iff_toNat_le]
      exact Nat.le_of_lt_succ (h c List.mem_cons_self)
    rw [utf8ByteSize_cons, ih fun d hd => h d (List.mem_cons_of_mem _ hd), hone, List.length_cons,
      Nat.add_comm]

end LightningLottery
