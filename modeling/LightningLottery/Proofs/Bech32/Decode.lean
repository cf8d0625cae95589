/-
  What a Bech32 text says of its parts.

  * `Bech32.decode_eq_ok`: the human-readable part, in small letters, is what stands before the last
    separator of the text.
-/
import LightningLottery.Bech32.Codec
import LightningLottery.Proofs.Steps
import LightningLottery.Proofs.Text.Blank
import LightningLottery.Proofs.Text.Split

namespace LightningLottery.Bech32

theorem decode_eq_ok {s hrp : String} {ws : List Word} (h : decode s = .ok (hrp, ws)) :
    ∃ before after, s.toList = before ++ separator :: after ∧
      hrp.toList = before.map Char.toLower := by
  unfold decode at h
  split at h
  · cases h
  · next before after hsplit =>
    refine ⟨before, after, (splitLast?_eq_some_iff.1 hsplit).1, ?_⟩
    obtain ⟨shown, -, h⟩ := bind_eq_ok_iff.1 h
    obtain ⟨words, -, h⟩ := bind_eq_ok_iff.1 h
    simp only at h
    split at h
    · cases h
    · split at h
      · cases h; rw [String.toList_ofList]
      · cases h

/-- The human-readable part is the start of the text, letter case aside. -/
theorem hrp_isStart {s hrp : String} {ws : List Word} (h : decode s = .ok (hrp, ws)) :
    hrp.toList <+: (asciiLower s).toList := by
  obtain ⟨before, after, hs, hhrp⟩ := decode_eq_ok h
  rw [toList_asciiLower, hs, List.map_append, hhrp]
  exact List.prefix_append _ _

end LightningLottery.Bech32
