/-
  Texts of which some characters have been replaced.

  * `Altered`: other characters of the charset stand in a window of at most six behind the last
    separator.
  * `Altered.decode_eq`: an altered Bech32 text is none, for the checksum tells.
  * `Altered.trim`: blanks around a text have no part in it.
-/
import LightningLottery.Proofs.Bech32.Reading

namespace LightningLottery.Bech32

/-- A character of the charset, small or capital. -/
def IsDataChar (c : Char) : Prop := ∃ w, c.toLower = charOf w

/-- `new` stands in `t` where `old` stands in `s`. -/
structure AlteredAt (s t : String) (front old new back : List Char) : Prop where
  was : s.toList = front ++ old ++ back
  is : t.toList = front ++ new ++ back
  /-- The window is behind the last separator. -/
  behind : separator ∈ front
  last : separator ∉ back
  few : old.length ≤ 6
  length : new.length = old.length
  differs : new ≠ old
  data : ∀ c ∈ old ++ new, IsDataChar c
  oneCase : OneCase (old ++ new)

/-- Other characters of the charset, in the same letter case, stand in a window of at most six
    behind the last separator. -/
def Altered (s t : String) : Prop := ∃ front old new back, AlteredAt s t front old new back

/-! ## Characters of a data part -/

theorem IsDataChar.ne_separator {c : Char} (h : IsDataChar c) : c ≠ separator := by
  rintro rfl
  obtain ⟨w, hw⟩ := h
  exact (charOf_spec w).2.2.2.1 (hw.symm.trans (by decide))

theorem IsDataChar.not_isBlank {c : Char} (h : IsDataChar c) : isBlank c = false := by
  obtain ⟨w, hw⟩ := h
  by_cases hupper : c.isUpper = true
  · simp only [Char.isUpper, decide_eq_true_eq, UInt32.le_iff_toNat_le] at hupper
    have hrange : 65 ≤ c.toNat ∧ c.toNat ≤ 90 := hupper
    simp only [isBlank, Bool.or_eq_false_iff, Bool.and_eq_false_iff, decide_eq_false_iff_not,
      beq_eq_false_iff_ne]
    omega
  · rw [← Char.toLower_eq_of_not_isUpper hupper, hw]
    exact (charOf_spec w).2.2.1

theorem exists_words {cs : List Char} (h : ∀ c ∈ cs, IsDataChar c) :
    ∃ ws : List Word, cs.map Char.toLower = ws.map charOf := by
  induction cs with
  | nil => exact ⟨[], rfl⟩
  | cons c cs ih =>
    obtain ⟨⟨w, hw⟩, hcs⟩ := List.forall_mem_cons.1 h
    obtain ⟨ws, hws⟩ := ih hcs
    exact ⟨w :: ws, by rw [List.map_cons, List.map_cons, hw, hws]⟩

/-- In one letter case, characters are told apart by their small forms. -/
theorem eq_of_toLower {cs ds : List Char} (h : OneCase (cs ++ ds))
    (hlower : cs.map Char.toLower = ds.map Char.toLower) : cs = ds := by
  have hsame {f : Char → Char} {es : List Char} (hf : ∀ c ∈ es, f c = c) : es.map f = es :=
    (List.map_congr_left hf).trans (List.map_id es)
  rcases h with hsmall | hcapital
  · obtain ⟨hcs, hds⟩ := List.forall_mem_append.1 hsmall
    rwa [hsame fun c hc => Char.toLower_eq_of_not_isUpper (by simp [hcs c hc]),
      hsame fun c hc => Char.toLower_eq_of_not_isUpper (by simp [hds c hc])] at hlower
  · obtain ⟨hcs, hds⟩ := List.forall_mem_append.1 hcapital
    have hupper := congrArg (List.map Char.toUpper) hlower
    simp only [List.map_map, Function.comp_def, Char.toUpper_toLower_eq_toUpper] at hupper
    rwa [hsame fun c hc => Char.toUpper_eq_of_not_isLower (by simp [hcs c hc]),
      hsame fun c hc => Char.toUpper_eq_of_not_isLower (by simp [hds c hc])] at hupper

namespace AlteredAt

variable {s t : String} {front old new back : List Char}

theorem old_ne_nil (h : AlteredAt s t front old new back) : old ≠ [] := by
  rintro rfl
  exact h.differs (List.length_eq_zero_iff.1 h.length)

theorem separator_notMem (h : AlteredAt s t front old new back) : separator ∉ old ++ back := by
  rw [List.mem_append, not_or]
  exact ⟨fun hmem => (h.data _ (List.mem_append_left new hmem)).ne_separator rfl, h.last⟩

theorem exists_front (h : AlteredAt s t front old new back) {hrp data : List Char}
    (hs : s.toList = hrp ++ separator :: data) :
    ∃ ahead, front = hrp ++ separator :: ahead ∧ data = ahead ++ (old ++ back) := by
  have hnot := h.separator_notMem
  have htext := hs
  rw [h.was, List.append_assoc] at htext
  rcases List.append_eq_append_iff.1 htext with ⟨rest, rfl, hrest⟩ | ⟨rest, rfl, hrest⟩
  · exact absurd (hrest ▸ by simp) hnot
  · rcases rest with _ | ⟨c, ahead⟩
    · exact absurd (by rw [← List.nil_append (old ++ back), ← hrest]; simp) hnot
    · cases hrest
      exact ⟨ahead, rfl, rfl⟩

/-- An altered text spells the same human-readable part, and other words in a window. -/
theorem hasParts (h : AlteredAt s t front old new back) {hrp : List Char} {words : List Word}
    (hs : HasParts s hrp words) (hcase : OneCase t.toList) :
    ∃ before was now after : List Word, words = before ++ was ++ after ∧
      was.length ≤ checksumLength ∧ now.length = was.length ∧ now ≠ was ∧
      HasParts t hrp (before ++ now ++ after) := by
  obtain ⟨data, htext, hdata⟩ := hs.spelt
  obtain ⟨ahead, hfront, rfl⟩ := h.exists_front htext
  rw [List.map_append] at hdata
  obtain ⟨before, rest, rfl, hahead, hrest⟩ := List.map_eq_append_iff.1 hdata.symm
  rw [List.map_append] at hrest
  obtain ⟨was, after, rfl, hwas, hafter⟩ := List.map_eq_append_iff.1 hrest
  obtain ⟨now, hnow⟩ := exists_words fun c hc => h.data c (List.mem_append_right old hc)
  have hlengths : was.length = old.length ∧ now.length = new.length := by
    simpa using And.intro (congrArg List.length hwas) (congrArg List.length hnow.symm)
  have hdiffers : now ≠ was := by
    rintro rfl
    exact h.differs (eq_of_toLower h.oneCase (hwas.symm.trans hnow.symm)).symm
  refine ⟨before, was, now, after, (List.append_assoc _ _ _).symm, ?_, ?_, hdiffers,
    hs.isHrp, hcase, ahead ++ (new ++ back), ?_, ?_⟩
  · rw [hlengths.1]
    exact h.few
  · rw [hlengths.1, hlengths.2, h.length]
  · rw [h.is, hfront]
    simp only [List.append_assoc, List.cons_append]
  · simp only [List.map_append, ← hahead, hnow, ← hafter, List.append_assoc]

end AlteredAt

/-! ## Altered texts -/

namespace Altered

variable {s t : String}

/-- **An altered text in one letter case fails its checksum.** -/
theorem decode_eq (h : Altered s t) {read : String × List Word} (hs : decode s = .ok read)
    (hcase : OneCase t.toList) : decode t = .error .invalidChecksum := by
  obtain ⟨front, old, new, back, h⟩ := h
  obtain ⟨hrp, words, hparts, hlength, hsound, -, -⟩ := exists_hasParts hs
  obtain ⟨before, was, now, after, rfl, hfew, hsame, hdiffers, hparts'⟩ := h.hasParts hparts hcase
  have hunsound := not_isSound_of_window hsame hfew hdiffers hsound
  simp only [List.length_append] at hlength
  rw [hparts'.decode_eq, if_neg (by simp only [List.length_append]; omega), hunsound]
  rfl

/-- **An altered text fails to decode**, for its checksum unless it mixes the letter cases. -/
theorem exists_cause (h : Altered s t) {read : String × List Word} (hs : decode s = .ok read) :
    ∃ cause, decode t = .error cause ∧ (OneCase t.toList → cause = .invalidChecksum) := by
  rcases ht : decode t with cause | ⟨hrp, ws⟩
  · refine ⟨cause, rfl, fun hcase => ?_⟩
    rw [h.decode_eq hs hcase] at ht
    exact (Except.error.inj ht).symm
  · have hcase := (decode_eq_ok_iff.1 ht).2.1
    rw [h.decode_eq hs hcase] at ht
    cases ht

/-- **Trimming keeps a text altered.** -/
theorem trim (h : Altered s t) : Altered (trim s) (trim t) := by
  obtain ⟨front, old, new, back, h⟩ := h
  have hfront : ∃ c ∈ front, isBlank c = false := ⟨separator, h.behind, rfl⟩
  have hnew : new ≠ [] := fun hnil => h.old_ne_nil (by
    rw [← List.length_eq_zero_iff, ← h.length, hnil, List.length_nil])
  have hchars (cs : List Char) (hsub : cs ⊆ old ++ new) : ∀ c ∈ cs, isBlank c = false :=
    fun c hc => (h.data c (hsub hc)).not_isBlank
  refine ⟨front.dropWhile isBlank, old, new, dropWhileRight isBlank back, ?_, ?_, ?_, ?_, h.few,
    h.length, h.differs, h.data, h.oneCase⟩
  · rw [LightningLottery.trim, String.toList_ofList, h.was,
      trimChars_append hfront h.old_ne_nil (hchars old (List.subset_append_left old new))]
  · rw [LightningLottery.trim, String.toList_ofList, h.is,
      trimChars_append hfront hnew (hchars new (List.subset_append_right old new))]
  · have hsplit := List.takeWhile_append_dropWhile (p := isBlank) (l := front)
    have hbehind := h.behind
    rw [← hsplit, List.mem_append] at hbehind
    refine hbehind.resolve_left fun hmem => ?_
    exact absurd (List.mem_takeWhile_imp hmem) (by decide)
  · intro hmem
    refine h.last ((List.rdropWhile_prefix isBlank back).subset ?_)
    rwa [← dropWhileRight_eq]

end Altered

end LightningLottery.Bech32
