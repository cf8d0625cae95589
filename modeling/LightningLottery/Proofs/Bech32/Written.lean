/-
  Bech32 texts as they are written.

  * `charOf_spec`: what each of the thirty-two characters is like.
  * `written`: the text of a human-readable part and words.
-/
import LightningLottery.Bech32.Codec
import LightningLottery.Proofs.Text.Blank

namespace LightningLottery.Bech32

/-- What the character of a word is like: a small ASCII letter or a digit other than the separator,
    no blank, of which the word is read. -/
def CharFits (w : Word) : Prop :=
  (charOf w).toNat < 128 ∧ (charOf w).isUpper = false ∧ isBlank (charOf w) = false ∧
    charOf w ≠ separator ∧ wordOf? (charOf w).toLower = some w

instance (w : Word) : Decidable (CharFits w) := inferInstanceAs (Decidable (_ ∧ _))

theorem charOf_spec : ∀ w : Word, CharFits w := by
  decide +kernel

/-- The text of a human-readable part and words, the checksum among them. -/
def written (hrp : List Char) (words : List Word) : String :=
  String.ofList (hrp ++ separator :: words.map charOf)

theorem toList_written (hrp : List Char) (words : List Word) :
    (written hrp words).toList = hrp ++ separator :: words.map charOf := String.toList_ofList

theorem separator_notMem (words : List Word) : separator ∉ words.map charOf := by
  intro hm
  obtain ⟨w, -, hw⟩ := List.mem_map.1 hm
  exact (charOf_spec w).2.2.2.1 hw

theorem isBlank_of_mem_written {hrp : List Char} {words : List Word}
    (hhrp : hrp.any isBlank = false) :
    ∀ c ∈ (written hrp words).toList, isBlank c = false := by
  intro c hc
  rw [toList_written] at hc
  rcases List.mem_append.1 hc with hc | hc
  · exact Bool.eq_false_iff.2 (List.any_eq_false.1 hhrp c hc)
  · rcases List.mem_cons.1 hc with rfl | hc
    · rfl
    · obtain ⟨w, -, rfl⟩ := List.mem_map.1 hc
      exact (charOf_spec w).2.2.1

theorem trim_written {hrp : List Char} {words : List Word} (hhrp : hrp.any isBlank = false) :
    trim (written hrp words) = written hrp words :=
  trim_of_not_blank (isBlank_of_mem_written hhrp)

end LightningLottery.Bech32
