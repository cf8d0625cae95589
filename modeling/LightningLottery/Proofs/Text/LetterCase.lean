/-
  What a change of the letter case leaves as it is.

  * `eq_of_capitals`, `eq_of_smalls`: what the capital letters, or the small ones, have in common
    with those of the other case, every character has.
  * `isBlank_toLower`, `isBlank_toUpper`: letters are no blanks.
  * `utf8ByteSize_asciiLower`: a text keeps its size.
  * `trim_asciiLower`, `trim_asciiUpper`: the letter case may be changed before or after trimming.
  * `decodeHexKey_asciiLower`, `hexNumber_asciiLower`: digits mean the same in small letters.
-/
import LightningLottery.Proofs.Text.Blank
import LightningLottery.Proofs.Text.Utf8
import LightningLottery.Text.Hex
import Mathlib

namespace LightningLottery

/-- The characters up to `Z` are all that can be made small. -/
theorem eq_of_capitals {α : Type} {f : Char → α}
    (h : ∀ n < 91, f (Char.ofNat n).toLower = f (Char.ofNat n)) (c : Char) : f c.toLower = f c := by
  by_cases hc : c.isUpper = true
  · simp only [Char.isUpper, decide_eq_true_eq, UInt32.le_iff_toNat_le] at hc
    have hn := h c.toNat (Nat.lt_succ_of_le hc.2)
    rwa [Char.ofNat_toNat] at hn
  · rw [Char.toLower_eq_of_not_isUpper hc]

/-- The characters up to `z` are all that can be made capital. -/
theorem eq_of_smalls {α : Type} {f : Char → α}
    (h : ∀ n < 123, f (Char.ofNat n).toUpper = f (Char.ofNat n)) (c : Char) : f c.toUpper = f c := by
  by_cases hc : c.isLower = true
  · simp only [Char.isLower, Bool.and_eq_true, decide_eq_true_eq, UInt32.le_iff_toNat_le] at hc
    have hn := h c.toNat (Nat.lt_succ_of_le hc.2)
    rwa [Char.ofNat_toNat] at hn
  · rw [Char.toUpper_eq_of_not_isLower hc]

theorem isBlank_toLower (c : Char) : isBlank c.toLower = isBlank c := eq_of_capitals (by decide) c

theorem isBlank_toUpper (c : Char) : isBlank c.toUpper = isBlank c := eq_of_smalls (by decide) c

theorem asciiLower_asciiLower (s : String) : asciiLower (asciiLower s) = asciiLower s := by
  rw [← String.toList_inj, toList_asciiLower, toList_asciiLower, List.map_map]
  exact List.map_congr_left fun c _ => Char.toLower_toLower_eq_toLower c

theorem asciiLower_asciiUpper (s : String) : asciiLower (asciiUpper s) = asciiLower s := by
  rw [← String.toList_inj, toList_asciiLower, toList_asciiLower, toList_asciiUpper, List.map_map]
  exact List.map_congr_left fun c _ => Char.toLower_toUpper_eq_toLower c

/-! ## Sizes -/

theorem utf8ByteSize_map {f : Char → Char} (h : ∀ c, (f c).utf8Size = c.utf8Size) (cs : List Char) :
    (String.ofList (cs.map f)).utf8ByteSize = (String.ofList cs).utf8ByteSize := by
  induction cs with
  | nil => rfl
  | cons c cs ih =>
    rw [List.map_cons, utf8ByteSize_cons, utf8ByteSize_cons, h, ih]

theorem utf8ByteSize_asciiLower (s : String) : (asciiLower s).utf8ByteSize = s.utf8ByteSize := by
  have hsize := utf8ByteSize_map (eq_of_capitals (f := Char.utf8Size) (by decide)) s.toList
  rwa [← toList_asciiLower, String.ofList_toList, String.ofList_toList] at hsize

/-! ## Blanks at the ends -/

theorem trimChars_map {f : Char → Char} (h : ∀ c, isBlank (f c) = isBlank c) (cs : List Char) :
    trimChars (cs.map f) = (trimChars cs).map f := by
  have hdrop (ds : List Char) : (ds.map f).dropWhile isBlank = (ds.dropWhile isBlank).map f := by
    have hf : isBlank ∘ f = isBlank := funext h
    rw [List.dropWhile_map, hf]
  rw [trimChars, trimChars, hdrop, dropWhileRight, dropWhileRight, ← List.map_reverse, hdrop,
    List.map_reverse]

theorem trim_asciiLower (s : String) : trim (asciiLower s) = asciiLower (trim s) := by
  rw [← String.toList_inj, toList_trim, toList_asciiLower, toList_asciiLower, toList_trim,
    trimChars_map isBlank_toLower]

theorem trim_asciiUpper (s : String) : trim (asciiUpper s) = asciiUpper (trim s) := by
  rw [← String.toList_inj, toList_trim, toList_asciiUpper, toList_asciiUpper, toList_trim,
    trimChars_map isBlank_toUpper]

/-! ## Digits -/

theorem hexValue?_toLower (c : Char) : hexValue? c.toLower = hexValue? c :=
  eq_of_capitals (by decide) c

theorem hexBytes?_map_toLower (cs : List Char) :
    hexBytes? (cs.map Char.toLower) = hexBytes? cs := by
  induction cs using hexBytes?.induct with
  | case1 => rfl
  | case2 c => rfl
  | case3 c d rest ih => simp only [List.map_cons, hexBytes?, hexValue?_toLower, ih]

theorem decodeHexKey_asciiLower (s : String) : decodeHexKey (asciiLower s) = decodeHexKey s := by
  rw [decodeHexKey, decodeHexKey, utf8ByteSize_asciiLower, hexDecode?, hexDecode?,
    toList_asciiLower, hexBytes?_map_toLower]

theorem isHexKey_asciiLower (s : String) : isHexKey (asciiLower s) = isHexKey s := by
  have hvalue : (fun c => (hexValue? c).isSome) ∘ Char.toLower = fun c => (hexValue? c).isSome :=
    funext fun c => congrArg Option.isSome (hexValue?_toLower c)
  rw [isHexKey, isHexKey, isHex, isHex, utf8ByteSize_asciiLower, toList_asciiLower, List.isEmpty_map,
    List.all_map, hvalue]

theorem hexNumber_asciiLower (s : String) : hexNumber (asciiLower s) = hexNumber s := by
  rw [hexNumber, hexNumber, toList_asciiLower, List.foldl_map]
  simp only [hexValue?_toLower]

end LightningLottery
