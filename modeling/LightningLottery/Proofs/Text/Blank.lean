/-
  Trimming, letter case and starts of texts.

  * `trim_trim`: a trimmed text has no blanks left to trim.
  * `trim_surrounded`: blanks around a text make no difference.
  * `trim_eq_empty_iff`: nothing is left exactly of blanks.
  * `trim_of_not_blank`: a text without blanks stays as it is.
  * `eqIgnoringCase_iff`, `startsWith_iff`: comparisons as statements about the texts.
  * `stripStart?_append`: what stands after a start.
-/
import Mathlib.Data.List.DropRight
import LightningLottery.Text.Blank

namespace LightningLottery

theorem dropWhileRight_eq (p : Char → Bool) (cs : List Char) :
    dropWhileRight p cs = cs.rdropWhile p := rfl

theorem dropWhile_dropWhileRight (p : Char → Bool) (cs : List Char) :
    (dropWhileRight p (cs.dropWhile p)).dropWhile p = dropWhileRight p (cs.dropWhile p) := by
  rw [dropWhileRight_eq, List.dropWhile_eq_self_iff]
  intro hpos hp
  have hstart := List.rdropWhile_prefix p (cs.dropWhile p)
  refine List.dropWhile_get_zero_not p cs (hpos.trans_le hstart.length_le) ?_
  rw [List.get_eq_getElem]
  rwa [hstart.getElem hpos] at hp

theorem trimChars_of_not_blank {cs : List Char} (h : ∀ c ∈ cs, ¬ isBlank c = true) :
    trimChars cs = cs := by
  have hdrop {ds : List Char} (hd : ∀ c ∈ ds, ¬ isBlank c = true) :
      ds.dropWhile isBlank = ds :=
    List.dropWhile_eq_self_iff.2 fun hpos => hd _ (List.getElem_mem hpos)
  rw [trimChars, hdrop h, dropWhileRight, hdrop (fun c hc => h c (List.mem_reverse.1 hc)),
    List.reverse_reverse]

theorem dropWhile_append_of_kept {α : Type} {p : α → Bool} {xs : List α}
    (h : ∃ x ∈ xs, p x = false) (ys : List α) :
    (xs ++ ys).dropWhile p = xs.dropWhile p ++ ys := by
  obtain ⟨x, hx, hp⟩ := h
  have hkept : ¬ (xs.dropWhile p).isEmpty = true := by
    rw [List.isEmpty_iff, List.dropWhile_eq_nil_iff]
    intro hall
    rw [hall x hx] at hp
    cases hp
  rw [List.dropWhile_append, if_neg hkept]

theorem dropWhileRight_append {p : Char → Bool} {xs : List Char}
    (h : ∀ hne : xs ≠ [], ¬ p (xs.getLast hne) = true) (ys : List Char) :
    dropWhileRight p (xs ++ ys) = xs ++ dropWhileRight p ys := by
  simp only [dropWhileRight_eq]
  induction ys using List.reverseRecOn with
  | nil => rw [List.append_nil, List.rdropWhile_nil, List.append_nil, List.rdropWhile_eq_self_iff.2 h]
  | append_singleton ys y ih =>
    rw [← List.append_assoc, List.rdropWhile_concat, List.rdropWhile_concat]
    split
    · exact ih
    · rw [List.append_assoc]

/-- Blanks in front of a part that has none, and behind it, are dropped apart. -/
theorem trimChars_append {front middle : List Char} (hfront : ∃ c ∈ front, isBlank c = false)
    (hne : middle ≠ []) (hmiddle : ∀ c ∈ middle, isBlank c = false) (back : List Char) :
    trimChars (front ++ middle ++ back) =
      front.dropWhile isBlank ++ middle ++ dropWhileRight isBlank back := by
  have hlast : ∀ h : front.dropWhile isBlank ++ middle ≠ [],
      ¬ isBlank ((front.dropWhile isBlank ++ middle).getLast h) = true := fun _ => by
    rw [List.getLast_append_of_ne_nil _ hne, hmiddle _ (List.getLast_mem hne)]
    exact Bool.false_ne_true
  rw [trimChars, List.append_assoc, dropWhile_append_of_kept hfront, ← List.append_assoc,
    dropWhileRight_append hlast]

theorem trimChars_trimChars (cs : List Char) : trimChars (trimChars cs) = trimChars cs := by
  unfold trimChars
  rw [dropWhile_dropWhileRight, dropWhileRight_eq isBlank (dropWhileRight _ _), dropWhileRight_eq,
    List.rdropWhile_idempotent]

/-- **A trimmed text stays as it is.** -/
theorem trim_trim (s : String) : trim (trim s) = trim s := by
  rw [trim, trim, String.toList_ofList, trimChars_trimChars]

theorem toList_trim (s : String) : (trim s).toList = trimChars s.toList := String.toList_ofList

theorem toList_asciiLower (s : String) : (asciiLower s).toList = s.toList.map Char.toLower := by
  rw [asciiLower, String.toList_map]

theorem toList_asciiUpper (s : String) : (asciiUpper s).toList = s.toList.map Char.toUpper := by
  rw [asciiUpper, String.toList_map]

/-! ## Blanks around a text -/

theorem trimChars_surrounded {front back : List Char} (hfront : ∀ c ∈ front, isBlank c = true)
    (hback : ∀ c ∈ back, isBlank c = true) (cs : List Char) :
    trimChars (front ++ cs ++ back) = trimChars cs := by
  have hright (ds : List Char) :
      dropWhileRight isBlank (ds ++ back) = dropWhileRight isBlank ds := by
    rw [dropWhileRight, dropWhileRight, List.reverse_append,
      List.dropWhile_append_of_pos fun c hc => hback c (List.mem_reverse.1 hc)]
  rw [trimChars, trimChars, List.append_assoc, List.dropWhile_append_of_pos hfront,
    List.dropWhile_append]
  split
  · next hnone =>
    rw [List.isEmpty_iff.1 hnone, List.dropWhile_eq_nil_iff.2 hback]
  · exact hright _

/-- A text of blanks alone. -/
def IsBlanks (s : String) : Prop := ∀ c ∈ s.toList, isBlank c = true

instance (s : String) : Decidable (IsBlanks s) :=
  List.decidableBAll (fun c => isBlank c = true) s.toList

/-- Nothing is left exactly of a text of blanks alone. -/
theorem trim_eq_empty_iff {s : String} : trim s = "" ↔ IsBlanks s := by
  rw [← String.toList_inj, toList_trim, String.toList_empty, trimChars, dropWhileRight_eq,
    List.rdropWhile_eq_nil_iff]
  constructor
  · intro h
    -- The first character that is kept would be a blank.
    refine List.dropWhile_eq_nil_iff.1 (by_contra fun hne => ?_)
    exact absurd (h _ (List.head_mem hne)) (Bool.eq_false_iff.1 (List.head_dropWhile_not _ hne))
  · intro h c hc
    exact h c ((List.dropWhile_suffix _).mem hc)

/-- **Blanks around a text make no difference.** -/
theorem trim_surrounded {front back : String} (hfront : IsBlanks front) (hback : IsBlanks back)
    (s : String) : trim (front ++ s ++ back) = trim s := by
  rw [← String.toList_inj, toList_trim, toList_trim, String.toList_append, String.toList_append,
    trimChars_surrounded hfront hback]

theorem trim_of_not_blank {s : String} (h : ∀ c ∈ s.toList, isBlank c = false) : trim s = s := by
  rw [← String.toList_inj, toList_trim,
    trimChars_of_not_blank fun c hc => Bool.eq_false_iff.1 (h c hc)]

/-! ## Comparisons -/

theorem eqIgnoringCase_iff {s t : String} :
    eqIgnoringCase s t = true ↔ asciiLower s = asciiLower t := beq_iff_eq

theorem stripStart?_append (start s : String) : stripStart? start (start ++ s) = some s := by
  have hstart : start.toList.isPrefixOf (start ++ s).toList = true := by
    rw [String.toList_append, List.isPrefixOf_iff_prefix]
    exact List.prefix_append _ _
  rw [stripStart?, if_pos hstart, String.toList_append, ← String.length_toList, List.drop_left,
    String.ofList_toList]

theorem stripStart?_eq_none {start s : String} (h : startsWith s start = false) :
    stripStart? start s = none := if_neg (Bool.eq_false_iff.1 h)

theorem startsWith_iff {s start : String} :
    startsWith s start = true ↔ start.toList <+: s.toList := List.isPrefixOf_iff_prefix

end LightningLottery
