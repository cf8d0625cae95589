/-
  Cutting character sequences at a character.

  * `takeWhile_ne_append`: what stands before the first occurrence of an element, and behind.
  * `span_append`: a list is cut where its items stop to be of a kind.
  * `splitFirst?_eq_some_iff`, `splitLast?_eq_some_iff`: the two parts put together again, and the
    side of the cut on which the character does not occur.
  * `mem_joinWith`: what joined pieces hold.
  * `notMem_of_mem_splitOn`: what stands between the cuts.
  * `splitOn_eq`, `splitOn_joinWith`: cutting undoes joining.
-/
import Mathlib.Data.List.TakeWhile
import LightningLottery.Text.Split

namespace LightningLottery

theorem takeWhile_ne_append {α : Type} [BEq α] [LawfulBEq α] {c : α} {before : List α}
    (h : c ∉ before) (after : List α) :
    (before ++ c :: after).takeWhile (· != c) = before ∧
      (before ++ c :: after).dropWhile (· != c) = c :: after := by
  have hne : ∀ x ∈ before, (x != c) = true := by
    intro x hx
    rw [bne_iff_ne]
    rintro rfl
    exact h hx
  rw [List.takeWhile_append_of_pos hne, List.dropWhile_append_of_pos hne]
  simp

theorem span_append {α : Type} {p : α → Bool} {xs ys : List α} (hxs : ∀ x ∈ xs, p x = true)
    (hys : ∀ y ∈ ys.head?, p y = false) :
    (xs ++ ys).takeWhile p = xs ∧ (xs ++ ys).dropWhile p = ys := by
  rw [List.takeWhile_append_of_pos hxs, List.dropWhile_append_of_pos hxs]
  cases ys with
  | nil => simp
  | cons y ys => simp [hys y rfl]

theorem splitFirst?_eq_some_iff {c : Char} {cs before after : List Char} :
    splitFirst? c cs = some (before, after) ↔ cs = before ++ c :: after ∧ c ∉ before := by
  constructor
  · intro h
    unfold splitFirst? at h
    split at h
    · cases h
    · next x rest hd =>
      cases h
      have hx : x = c := by
        have := List.head?_dropWhile_not (· != c) cs
        rw [hd] at this
        simpa using this
      refine ⟨?_, fun hc => ?_⟩
      · rw [← hx, ← hd, hx, List.takeWhile_append_dropWhile]
      · simpa using List.mem_takeWhile_imp hc
  · rintro ⟨rfl, h⟩
    obtain ⟨htake, hdrop⟩ := takeWhile_ne_append h after
    simp only [splitFirst?, htake, hdrop]

theorem splitFirst?_eq_none_iff {c : Char} {cs : List Char} :
    splitFirst? c cs = none ↔ c ∉ cs := by
  have hdrop : splitFirst? c cs = none ↔ cs.dropWhile (· != c) = [] := by
    unfold splitFirst?
    split
    · next h => exact iff_of_true rfl h
    · next h => exact iff_of_false nofun (by rw [h]; exact List.cons_ne_nil _ _)
  rw [hdrop, List.dropWhile_eq_nil_iff]
  exact ⟨fun h hc => absurd rfl (bne_iff_ne.1 (h c hc)),
    fun h x hx => bne_iff_ne.2 fun he => h (he ▸ hx)⟩

theorem splitLast?_eq_some_iff {c : Char} {cs before after : List Char} :
    splitLast? c cs = some (before, after) ↔ cs = before ++ c :: after ∧ c ∉ after := by
  unfold splitLast?
  rw [Option.map_eq_some_iff]
  constructor
  · rintro ⟨⟨a, b⟩, h, he⟩
    obtain ⟨hcs, hc⟩ := splitFirst?_eq_some_iff.1 h
    cases he
    refine ⟨?_, by rwa [List.mem_reverse]⟩
    rw [← List.reverse_reverse cs, hcs]
    simp
  · rintro ⟨rfl, h⟩
    refine ⟨(after.reverse, before.reverse), ?_, by simp⟩
    rw [splitFirst?_eq_some_iff]
    refine ⟨by simp, by rwa [List.mem_reverse]⟩

theorem notMem_of_mem_splitOn {α : Type} [BEq α] [LawfulBEq α] {c : α} {cs piece : List α}
    (h : piece ∈ cs.splitOn c) : c ∉ piece := by
  induction cs generalizing piece with
  | nil =>
    rw [List.splitOn_nil, List.mem_singleton] at h
    simp [h]
  | cons d cs ih =>
    obtain ⟨first, later, hcs⟩ := List.exists_cons_of_ne_nil (List.splitOn_ne_nil c cs)
    rw [List.splitOn_cons_eq_if_modifyHead, hcs] at h
    rw [hcs] at ih
    split at h
    · rcases List.mem_cons.1 h with rfl | h
      · exact List.not_mem_nil
      · exact ih h
    · next hne =>
      rcases List.mem_cons.1 h with rfl | h
      · rw [List.mem_cons, not_or]
        exact ⟨fun he => hne (beq_iff_eq.2 he.symm), ih List.mem_cons_self⟩
      · exact ih (List.mem_cons_of_mem _ h)

theorem splitOn_eq (c : Char) (cs : List Char) : splitOn c cs = cs.splitOn c := by
  induction cs with
  | nil => rfl
  | cons d cs ih =>
    obtain ⟨piece, pieces, hcs⟩ := List.exists_cons_of_ne_nil (List.splitOn_ne_nil c cs)
    rw [splitOn, ih, List.splitOn_cons_eq_if_modifyHead, hcs]
    by_cases h : d = c
    · rw [if_pos h, if_pos (beq_iff_eq.2 h)]
    · rw [if_neg h, if_neg fun he => h (beq_iff_eq.1 he), List.modifyHead_cons]

theorem joinWith_eq (c : Char) (pieces : List (List Char)) :
    joinWith c pieces = [c].intercalate pieces := by
  induction pieces with
  | nil => rfl
  | cons piece pieces ih =>
    cases pieces with
    | nil => simp [joinWith]
    | cons second pieces =>
      rw [joinWith, ih]
      · simp
      · exact nofun

theorem mem_joinWith {separator c : Char} {pieces : List (List Char)}
    (h : c ∈ joinWith separator pieces) : c = separator ∨ ∃ piece ∈ pieces, c ∈ piece := by
  induction pieces using joinWith.induct with
  | case1 => exact absurd h List.not_mem_nil
  | case2 piece => exact Or.inr ⟨piece, List.mem_singleton_self _, h⟩
  | case3 piece pieces hne ih =>
    rw [joinWith] at h
    · rcases List.mem_append.1 h with hpiece | hrest
      · exact Or.inr ⟨piece, List.mem_cons_self, hpiece⟩
      · rcases List.mem_cons.1 hrest with rfl | hrest
        · exact Or.inl rfl
        · obtain hsep | ⟨other, hother, hc⟩ := ih hrest
          · exact Or.inl hsep
          · exact Or.inr ⟨other, List.mem_cons_of_mem _ hother, hc⟩
    · exact hne

/-- Pieces that do not have a character are cut out again after they were joined by it. -/
theorem splitOn_joinWith {c : Char} {pieces : List (List Char)} (h : ∀ piece ∈ pieces, c ∉ piece)
    (hne : pieces ≠ []) : splitOn c (joinWith c pieces) = pieces := by
  rw [splitOn_eq, joinWith_eq, List.splitOn_intercalate c h hne]

end LightningLottery
