/-
  When a text is a Bech32 text, and what of.

  * `OneCase`: a text in which small and capital letters do not meet.
  * `checkHrp_eq_ok`, `IsHrp.exists_checkHrp`: the human-readable parts that are accepted.
  * `dataWords_eq_ok_iff`: a data part is read as words just when it spells them in one letter case.
  * `written_injective`: a text tells its human-readable part and its words.
  * `HasParts`: a text spells a human-readable part and words, the checksum among them.
  * `HasParts.decode_eq`: what is made of such a text.
  * `decode_eq_ok_iff`: a text is read just when it is, letter case aside, what is written for the
    parts that are read, with their checksum.
  * `decode_written`: what is written in small letters is read again.
-/
import LightningLottery.Proofs.Bech32.Residue
import LightningLottery.Proofs.Bech32.Written
import LightningLottery.Proofs.Steps
import LightningLottery.Proofs.Text.Split
import LightningLottery.Proofs.Text.Utf8
import Mathlib

namespace LightningLottery.Bech32

/-! ## Letter case -/

/-- Small and capital letters do not meet. -/
def OneCase (cs : List Char) : Prop :=
  (∀ c ∈ cs, c.isUpper = false) ∨ ∀ c ∈ cs, c.isLower = false

theorem OneCase.mono {cs ds : List Char} (h : OneCase cs) (hsub : ds ⊆ cs) : OneCase ds :=
  h.imp (fun hc c hd => hc c (hsub hd)) fun hc c hd => hc c (hsub hd)

theorem oneCase_separator {cs ds : List Char} :
    OneCase (cs ++ separator :: ds) ↔ OneCase (cs ++ ds) := by
  have hupper : separator.isUpper = false := by decide
  have hlower : separator.isLower = false := by decide
  simp only [OneCase, List.forall_mem_append, List.forall_mem_cons, hupper, hlower, true_and]

/-- More characters keep to the letter case that a text has shown so far. -/
def LetterCase.Fits : LetterCase → List Char → Prop
  | .either, cs => OneCase cs
  | .small, cs => ∀ c ∈ cs, c.isUpper = false
  | .capital, cs => ∀ c ∈ cs, c.isLower = false

theorem LetterCase.fits_nil (shown : LetterCase) : shown.Fits [] := by
  cases shown
  · exact Or.inl nofun
  · exact nofun
  · exact nofun

theorem LetterCase.fits_cons {shown next : LetterCase} {c : Char} (h : shown.add? c = some next)
    (cs : List Char) : shown.Fits (c :: cs) ↔ next.Fits cs := by
  unfold LetterCase.add? at h
  split at h
  · next hlower =>
    have hupper : c.isUpper = false := by simpa using Char.not_isUpper_of_isLower hlower
    cases shown <;> cases h <;> simp [Fits, OneCase, hlower, hupper]
  · next hlower =>
    rw [Bool.not_eq_true] at hlower
    split at h
    · next hupper =>
      cases shown <;> cases h <;> simp [Fits, OneCase, hlower, hupper]
    · next hupper =>
      rw [Bool.not_eq_true] at hupper
      cases shown <;> cases h <;> simp [Fits, OneCase, hlower, hupper]

theorem LetterCase.not_fits_cons {shown : LetterCase} {c : Char} (h : shown.add? c = none)
    (cs : List Char) : ¬ shown.Fits (c :: cs) := by
  intro hfits
  unfold LetterCase.add? at h
  split at h
  · next hlower =>
    split at h
    · next hshown =>
      subst hshown
      exact Bool.false_ne_true ((hfits c List.mem_cons_self).symm.trans hlower)
    · cases h
  · split at h
    · next hupper =>
      split at h
      · next hshown =>
        subst hshown
        exact Bool.false_ne_true ((hfits c List.mem_cons_self).symm.trans hupper)
      · cases h
    · cases h

/-! ## Human-readable parts -/

/-- A human-readable part: 1 to 83 visible ASCII characters in one letter case. -/
structure IsHrp (hrp : String) : Prop where
  nonempty : 0 < hrp.utf8ByteSize
  short : hrp.utf8ByteSize ≤ maxHrpLength
  visible : ∀ b ∈ utf8 hrp, 33 ≤ b.toNat ∧ b.toNat ≤ 126
  oneCase : OneCase hrp.toList

/-- The character that a byte is taken for. -/
def charOfByte (b : UInt8) : Char := Char.ofNat b.toNat

theorem hrpCase_eq_ok {shown next : LetterCase} {bs : Bytes} (h : hrpCase shown bs = .ok next) :
    (∀ b ∈ bs, 33 ≤ b.toNat ∧ b.toNat ≤ 126) ∧
      ∀ cs, next.Fits cs ↔ shown.Fits (bs.map charOfByte ++ cs) := by
  induction bs generalizing shown with
  | nil => cases h; exact ⟨nofun, fun _ => Iff.rfl⟩
  | cons b bs ih =>
    unfold hrpCase at h
    simp only [Bool.or_eq_true, decide_eq_true_eq] at h
    split at h
    · cases h
    next hvisible =>
    split at h
    · next middle hadd =>
      obtain ⟨hrest, hfits⟩ := ih h
      refine ⟨List.forall_mem_cons.2 ⟨?_, hrest⟩, fun cs => ?_⟩
      · rw [not_or, UInt8.not_lt, UInt8.not_lt, UInt8.le_iff_toNat_le, UInt8.le_iff_toNat_le]
          at hvisible
        exact hvisible
      · rw [hfits cs, List.map_cons, List.cons_append]
        exact (LetterCase.fits_cons hadd _).symm
    · cases h

theorem exists_hrpCase {shown : LetterCase} {bs : Bytes}
    (hvisible : ∀ b ∈ bs, 33 ≤ b.toNat ∧ b.toNat ≤ 126) (h : shown.Fits (bs.map charOfByte)) :
    ∃ next, hrpCase shown bs = .ok next := by
  induction bs generalizing shown with
  | nil => exact ⟨shown, rfl⟩
  | cons b bs ih =>
    obtain ⟨hb, hbs⟩ := List.forall_mem_cons.1 hvisible
    have hrange : ¬ (b < 33 ∨ 126 < b) := by
      rw [not_or, UInt8.not_lt, UInt8.not_lt, UInt8.le_iff_toNat_le, UInt8.le_iff_toNat_le]
      exact hb
    unfold hrpCase
    simp only [Bool.or_eq_true, decide_eq_true_eq, if_neg hrange]
    split
    · next next hadd => exact ih hbs ((LetterCase.fits_cons hadd _).1 h)
    · next hadd => exact absurd h (LetterCase.not_fits_cons hadd _)

/-- The bytes of a text of visible ASCII stand for its characters. -/
theorem map_charOfByte {hrp : String} (h : ∀ b ∈ utf8 hrp, b.toNat ≤ 126) :
    (utf8 hrp).map charOfByte = hrp.toList := by
  have hascii := Utf8.ascii_of_utf8 fun b hb => Nat.lt_of_le_of_lt (h b hb) (by decide)
  have hbytes := Utf8.utf8_ascii hascii
  rw [String.ofList_toList] at hbytes
  rw [hbytes, List.map_map]
  refine (List.map_congr_left fun c hc => ?_).trans (List.map_id _)
  show Char.ofNat (UInt8.ofNat c.toNat).toNat = c
  rw [Utf8.toNat_ofNat (Nat.lt_trans (hascii c hc) (by decide)), Char.ofNat_toNat]

/-- **`checkHrp` accepts human-readable parts only**, and tells the letter case. -/
theorem checkHrp_eq_ok {hrp : String} {shown : LetterCase} (h : checkHrp hrp = .ok shown) :
    IsHrp hrp ∧ ∀ cs, shown.Fits cs ↔ OneCase (hrp.toList ++ cs) := by
  unfold checkHrp at h
  simp only [Bool.or_eq_true, decide_eq_true_eq] at h
  split at h
  · cases h
  next hlength =>
  obtain ⟨hvisible, hfits⟩ := hrpCase_eq_ok h
  rw [map_charOfByte fun b hb => (hvisible b hb).2] at hfits
  have hcase := (hfits []).1 (LetterCase.fits_nil shown)
  rw [List.append_nil] at hcase
  exact ⟨⟨by omega, by omega, hvisible, hcase⟩, hfits⟩

/-- **`checkHrp` accepts every human-readable part.** -/
theorem IsHrp.exists_checkHrp {hrp : String} (h : IsHrp hrp) :
    ∃ shown, checkHrp hrp = .ok shown := by
  have hlength : ¬ (hrp.utf8ByteSize = 0 ∨ maxHrpLength < hrp.utf8ByteSize) := by
    have := h.nonempty
    have := h.short
    omega
  unfold checkHrp
  simp only [Bool.or_eq_true, decide_eq_true_eq, if_neg hlength]
  refine exists_hrpCase h.visible ?_
  rw [map_charOfByte fun b hb => (h.visible b hb).2]
  exact h.oneCase

theorem IsHrp.ascii {hrp : String} (h : IsHrp hrp) : ∀ c ∈ hrp.toList, c.toNat < 128 :=
  Utf8.ascii_of_utf8 fun b hb => Nat.lt_of_le_of_lt (h.visible b hb).2 (by decide)

theorem isHrp_ofList_iff {cs : List Char} :
    IsHrp (String.ofList cs) ↔ 0 < cs.length ∧ cs.length ≤ maxHrpLength ∧
      (∀ c ∈ cs, 33 ≤ c.toNat ∧ c.toNat ≤ 126) ∧ OneCase cs := by
  constructor
  · intro h
    have hascii := h.ascii
    have hcase := h.oneCase
    have hpos := h.nonempty
    have hshort := h.short
    rw [String.toList_ofList] at hascii hcase
    rw [utf8ByteSize_ascii cs hascii] at hpos hshort
    refine ⟨hpos, hshort, fun c hc => ?_, hcase⟩
    have hvisible := h.visible (UInt8.ofNat c.toNat) (by
      rw [Utf8.utf8_ascii hascii]
      exact List.mem_map_of_mem hc)
    rwa [Utf8.toNat_ofNat ((hascii c hc).trans (by decide))] at hvisible
  · rintro ⟨hpos, hshort, hvisible, hcase⟩
    have hascii (c : Char) (hc : c ∈ cs) : c.toNat < 128 := (hvisible c hc).2.trans_lt (by decide)
    have hsize := utf8ByteSize_ascii cs hascii
    refine ⟨by rwa [hsize], by rwa [hsize], fun b hb => ?_, by rwa [String.toList_ofList]⟩
    rw [Utf8.utf8_ascii hascii] at hb
    obtain ⟨c, hc, rfl⟩ := List.mem_map.1 hb
    rw [Utf8.toNat_ofNat ((hascii c hc).trans (by decide))]
    exact hvisible c hc

theorem visible_toLower (c : Char) :
    33 ≤ c.toLower.toNat ∧ c.toLower.toNat ≤ 126 ↔ 33 ≤ c.toNat ∧ c.toNat ≤ 126 := by
  by_cases hupper : c.isUpper = true
  · rw [Char.toLower_eq_of_isUpper hupper]
    simp only [Char.isUpper, decide_eq_true_eq, UInt32.le_iff_toNat_le] at hupper
    have hrange : 65 ≤ c.toNat ∧ c.toNat ≤ 90 := hupper
    have hvalid : (c.toNat + 32).isValidChar := Or.inl (by omega)
    rw [Char.toNat_ofNat, if_pos hvalid]
    omega
  · rw [Char.toLower_eq_of_not_isUpper hupper]

theorem oneCase_toLower (cs : List Char) : OneCase (cs.map Char.toLower) := by
  refine Or.inl fun c hc => ?_
  obtain ⟨d, -, rfl⟩ := List.mem_map.1 hc
  exact Char.isUpper_toLower_eq_false d

theorem oneCase_toUpper (cs : List Char) : OneCase (cs.map Char.toUpper) := by
  refine Or.inr fun c hc => ?_
  obtain ⟨d, -, rfl⟩ := List.mem_map.1 hc
  exact Char.isLower_toUpper_eq_false d

theorem isHrp_toLower_iff {cs : List Char} (h : OneCase cs) :
    IsHrp (String.ofList (cs.map Char.toLower)) ↔ IsHrp (String.ofList cs) := by
  simp only [isHrp_ofList_iff, List.length_map, List.forall_mem_map, visible_toLower, h,
    oneCase_toLower]

/-! ## Data parts -/

theorem toLower_charOf (w : Word) : (charOf w).toLower = charOf w :=
  Char.toLower_eq_of_not_isUpper (by rw [(charOf_spec w).2.1]; exact Bool.false_ne_true)

/-- Each word has one character, letter case aside. -/
theorem wordOf?_eq_some_iff {c : Char} {w : Word} : wordOf? c = some w ↔ c = charOf w := by
  constructor
  · intro h
    obtain ⟨i, hi, rfl⟩ := Option.map_eq_some_iff.1 h
    obtain ⟨hlt, rfl, -⟩ := List.idxOf?_eq_some_iff.1 hi
    have hmod : i % 2 ^ 5 = i := Nat.mod_eq_of_lt (hlt.trans_eq (by decide))
    rw [charOf, BitVec.toNat_ofNat, hmod, List.getD_eq_getElem _ _ hlt]
  · rintro rfl
    have hword := (charOf_spec w).2.2.2.2
    rwa [toLower_charOf] at hword

theorem charOf_injective : Function.Injective charOf := fun _ _ h =>
  Option.some.inj ((wordOf?_eq_some_iff.2 h).symm.trans (wordOf?_eq_some_iff.2 rfl)).symm

/-- The last separator divides a written text, so that it determines its parts. -/
theorem written_injective {front back : List Char} {vs ws : List Word}
    (h : written front vs = written back ws) : front = back ∧ vs = ws := by
  have hfront := splitLast?_eq_some_iff.2 ⟨toList_written front vs, separator_notMem vs⟩
  have hback := splitLast?_eq_some_iff.2 ⟨toList_written back ws, separator_notMem ws⟩
  rw [h, hback] at hfront
  obtain ⟨hparts, hwords⟩ := Prod.mk.inj (Option.some.inj hfront)
  exact ⟨hparts.symm, (List.map_injective_iff.2 charOf_injective hwords).symm⟩

theorem ascii_of_toLower {c : Char} (h : c.toLower.toNat < 128) : c.toNat < 128 := by
  by_cases hupper : c.isUpper = true
  · simp only [Char.isUpper, decide_eq_true_eq, UInt32.le_iff_toNat_le] at hupper
    exact hupper.2.trans_lt (by decide)
  · rwa [Char.toLower_eq_of_not_isUpper hupper] at h

/-- **`dataWords` reads exactly the texts of words in one letter case.** -/
theorem dataWords_eq_ok_iff {shown : LetterCase} {cs : List Char} {ws : List Word} :
    dataWords shown cs = .ok ws ↔ shown.Fits cs ∧ cs.map Char.toLower = ws.map charOf := by
  induction cs generalizing shown ws with
  | nil =>
    rw [dataWords, List.map_nil, eq_comm (a := []), List.map_eq_nil_iff, Except.ok.injEq,
      eq_comm (a := [])]
    exact ⟨fun h => ⟨shown.fits_nil, h⟩, And.right⟩
  | cons c cs ih =>
    constructor
    · intro h
      unfold dataWords at h
      split at h
      · cases h
      split at h
      · cases h
      next next hadd =>
      split at h
      · cases h
      next w hw =>
      rcases hrest : dataWords next cs with e | vs
      · rw [hrest] at h; cases h
      · rw [hrest] at h
        cases h
        obtain ⟨hfits, hspelt⟩ := ih.1 hrest
        rw [List.map_cons, List.map_cons, hspelt, wordOf?_eq_some_iff.1 hw]
        exact ⟨(LetterCase.fits_cons hadd cs).2 hfits, rfl⟩
    · rintro ⟨hfits, hspelt⟩
      obtain ⟨w, vs, rfl, hw, hrest⟩ := List.map_eq_cons_iff.1 hspelt.symm
      have hascii : ¬ 128 ≤ c.toNat := Nat.not_le_of_lt (ascii_of_toLower (hw ▸ (charOf_spec w).1))
      unfold dataWords
      rw [if_neg hascii]
      split
      · next hadd => exact absurd hfits (LetterCase.not_fits_cons hadd cs)
      · next next hadd =>
        rw [wordOf?_eq_some_iff.2 hw.symm, ih.2 ⟨(LetterCase.fits_cons hadd cs).1 hfits, hrest.symm⟩]
        rfl

/-! ## Texts -/

/-- A text spells a human-readable part and words, the checksum among them, in one letter case. -/
structure HasParts (s : String) (hrp : List Char) (words : List Word) : Prop where
  isHrp : IsHrp (String.ofList hrp)
  oneCase : OneCase s.toList
  spelt : ∃ data, s.toList = hrp ++ separator :: data ∧ data.map Char.toLower = words.map charOf

namespace HasParts

variable {s : String} {hrp : List Char} {words : List Word}

/-- **`decode` of a text with parts** checks their length and then the checksum. -/
theorem decode_eq (h : HasParts s hrp words) :
    decode s =
      if words.length < checksumLength then .error .invalidLength
      else if isSound (hrp.map Char.toLower) words then
        .ok (String.ofList (hrp.map Char.toLower), words.take (words.length - checksumLength))
      else .error .invalidChecksum := by
  obtain ⟨data, hs, hdata⟩ := h.spelt
  have hsplit : splitLast? separator s.toList = some (hrp, data) := by
    refine splitLast?_eq_some_iff.2 ⟨hs, fun hmem => separator_notMem words ?_⟩
    rw [← hdata]
    exact List.mem_map.2 ⟨separator, hmem, by decide⟩
  obtain ⟨shown, hshown⟩ := h.isHrp.exists_checkHrp
  have hwords : dataWords shown data = .ok words := by
    refine dataWords_eq_ok_iff.2 ⟨((checkHrp_eq_ok hshown).2 data).2 ?_, hdata⟩
    rw [String.toList_ofList]
    exact oneCase_separator.1 (hs ▸ h.oneCase)
  simp only [decode, hsplit, hshown, hwords, bind, Except.bind]

theorem asciiLower_eq (h : HasParts s hrp words) :
    asciiLower s = written (hrp.map Char.toLower) words := by
  obtain ⟨data, hs, hdata⟩ := h.spelt
  rw [← String.toList_inj, toList_asciiLower, hs, List.map_append, List.map_cons, hdata,
    toList_written]
  rfl

end HasParts

/-- **A text that decodes has the parts that are read.** -/
theorem exists_hasParts {s hrp : String} {ws : List Word} (h : decode s = .ok (hrp, ws)) :
    ∃ front words, HasParts s front words ∧ checksumLength ≤ words.length ∧
      isSound (front.map Char.toLower) words = true ∧
      hrp = String.ofList (front.map Char.toLower) ∧
      ws = words.take (words.length - checksumLength) := by
  unfold decode at h
  split at h
  · cases h
  next front data hsplit =>
  obtain ⟨shown, hshown, h⟩ := bind_eq_ok_iff.1 h
  obtain ⟨words, hwords, h⟩ := bind_eq_ok_iff.1 h
  simp only at h
  split at h
  · cases h
  next hlength =>
  split at h
  · next hsound =>
    cases h
    obtain ⟨hhrp, hfits⟩ := checkHrp_eq_ok hshown
    obtain ⟨hcase, hdata⟩ := dataWords_eq_ok_iff.1 hwords
    have hs := (splitLast?_eq_some_iff.1 hsplit).1
    have hone := (hfits data).1 hcase
    rw [String.toList_ofList] at hone
    exact ⟨front, words, ⟨hhrp, hs ▸ oneCase_separator.2 hone, data, hs, hdata⟩, by omega, hsound,
      rfl, rfl⟩
  · cases h

/-- **A text decodes if and only if it is, in small letters, what is written for its parts with
    their checksum.** -/
theorem decode_eq_ok_iff {s hrp : String} {ws : List Word} :
    decode s = .ok (hrp, ws) ↔
      IsHrp hrp ∧ OneCase s.toList ∧
        asciiLower s = written hrp.toList (ws ++ checksum hrp.toList ws) := by
  constructor
  · intro h
    obtain ⟨front, words, hparts, hlength, hsound, rfl, rfl⟩ := exists_hasParts h
    have hfront : OneCase front := String.toList_ofList (l := front) ▸ hparts.isHrp.oneCase
    refine ⟨(isHrp_toLower_iff hfront).2 hparts.isHrp, hparts.oneCase, ?_⟩
    rw [← List.take_append_drop (words.length - checksumLength) words] at hsound
    have hcheck := (isSound_append_iff (by rw [List.length_drop]; omega)).1 hsound
    rw [hparts.asciiLower_eq, String.toList_ofList, ← hcheck, List.take_append_drop]
  · rintro ⟨hhrp, hcase, hlower⟩
    rw [← String.toList_inj, toList_asciiLower, toList_written] at hlower
    obtain ⟨front, rest, hs, hfront, hrest⟩ := List.map_eq_append_iff.1 hlower
    obtain ⟨c, data, rfl, hc, hdata⟩ := List.map_eq_cons_iff.1 hrest
    -- no letter has the separator as its small form
    have hsep : c = separator := by
      by_cases hupper : c.isUpper = true
      · have hone := Char.isLower_toLower_eq_isAlpha c
        rw [hc, Char.isAlpha, hupper, Bool.true_or] at hone
        exact absurd hone (by decide)
      · rwa [Char.toLower_eq_of_not_isUpper hupper] at hc
    subst hsep
    have hone : OneCase front :=
      hcase.mono (hs ▸ List.subset_append_left front (separator :: data))
    have hparts : HasParts s front (ws ++ checksum hrp.toList ws) := by
      refine ⟨(isHrp_toLower_iff hone).1 ?_, hcase, data, hs, hdata⟩
      rwa [hfront, String.ofList_toList]
    have hlength : (ws ++ checksum hrp.toList ws).length = ws.length + checksumLength := by
      rw [List.length_append, length_checksum]
    rw [hparts.decode_eq, hlength, if_neg (by omega), hfront, isSound_checksum, if_pos rfl,
      Nat.add_sub_cancel, List.take_left, String.ofList_toList]

theorem asciiLower_written {hrp : List Char} (h : hrp.map Char.toLower = hrp)
    (words : List Word) : asciiLower (written hrp words) = written hrp words := by
  have hwords : words.map (Char.toLower ∘ charOf) = words.map charOf :=
    List.map_congr_left fun w _ => toLower_charOf w
  rw [← String.toList_inj, toList_asciiLower, toList_written, List.map_append, List.map_cons,
    List.map_map, hwords, h]
  rfl

/-- **A written text decodes.** -/
theorem decode_written {hrp : List Char} (h : IsHrp (String.ofList hrp))
    (hsmall : hrp.map Char.toLower = hrp) (ws : List Word) :
    decode (written hrp (ws ++ checksum hrp ws)) = .ok (String.ofList hrp, ws) := by
  have hlower := asciiLower_written hsmall (ws ++ checksum hrp ws)
  have hcase : OneCase (written hrp (ws ++ checksum hrp ws)).toList := by
    rw [← hlower, toList_asciiLower]
    exact oneCase_toLower _
  refine decode_eq_ok_iff.2 ⟨h, hcase, ?_⟩
  rw [hlower, String.toList_ofList]

/-- **Decoding does not depend on the letter case.** -/
theorem decode_congr {s t hrp : String} {ws : List Word} (h : decode s = .ok (hrp, ws))
    (hcase : OneCase t.toList) (hlower : asciiLower t = asciiLower s) :
    decode t = .ok (hrp, ws) := by
  obtain ⟨hhrp, -, hs⟩ := decode_eq_ok_iff.1 h
  exact decode_eq_ok_iff.2 ⟨hhrp, hcase, hlower.trans hs⟩

end LightningLottery.Bech32
