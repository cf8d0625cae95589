/-
  Lists that grow at the end, as histories do, and lists of entries under keys.

  * `concat_eq_append_cons_iff`: where an item stands in a list with one more.
  * `find?_key_eq_some_iff`: what is found under a key, if no key occurs twice.
  * `mem_map_behind_iff`: the entries once an item has joined the list under a key.
-/
import Mathlib.Data.List.Nodup

namespace LightningLottery

universe u v

/-! ## One more item -/

/-- An item of a list with one more item is that one, or it stands before. -/
theorem concat_eq_append_cons_iff {α : Type u} {xs before after : List α} {x y : α} :
    xs ++ [x] = before ++ y :: after ↔
      (xs = before ∧ x = y ∧ after = []) ∨
        ∃ after', after = after' ++ [x] ∧ xs = before ++ y :: after' := by
  constructor
  · intro h
    rcases after.eq_nil_or_concat with rfl | ⟨after', z, rfl⟩
    · obtain ⟨hxs, hx⟩ := List.append_inj' h rfl
      exact Or.inl ⟨hxs, List.head_eq_of_cons_eq hx, rfl⟩
    · rw [List.concat_eq_append, ← List.cons_append, ← List.append_assoc] at h
      obtain ⟨hxs, hx⟩ := List.append_inj' h rfl
      rw [List.concat_eq_append, List.head_eq_of_cons_eq hx]
      exact Or.inr ⟨after', rfl, hxs⟩
  · rintro (⟨rfl, rfl, rfl⟩ | ⟨after', rfl, rfl⟩)
    · rfl
    · rw [List.append_assoc, List.cons_append]

/-! ## Entries under keys -/

variable {κ : Type u} {α : Type v}

/-- **If no key occurs twice, the item found under a key is the one in its entry.** -/
theorem find?_key_eq_some_iff [BEq κ] [LawfulBEq κ] {entries : List (κ × α)}
    (h : (entries.map (·.1)).Nodup) {key : κ} {item : α} :
    (entries.find? (·.1 == key)).map (·.2) = some item ↔ (key, item) ∈ entries := by
  rw [Option.map_eq_some_iff]
  constructor
  · rintro ⟨⟨key', item⟩, hfind, rfl⟩
    have hkey := List.find?_some hfind
    have hmem := List.mem_of_find?_eq_some hfind
    rw [beq_iff_eq] at hkey
    exact hkey ▸ hmem
  · intro hmem
    obtain ⟨entry, hfind⟩ := Option.isSome_iff_exists.1
      (List.find?_isSome (p := (·.1 == key)).2 ⟨_, hmem, beq_self_eq_true key⟩)
    have hkey := List.find?_some hfind
    rw [beq_iff_eq] at hkey
    have heq := List.inj_on_of_nodup_map h (List.mem_of_find?_eq_some hfind) hmem hkey
    exact ⟨entry, hfind, by rw [heq]⟩

/-- **An item that joins the list under a key** changes the entry of that key alone. -/
theorem mem_map_behind_iff [DecidableEq κ] {entries : List (κ × List α)} {key : κ} {item : α}
    {entry : κ × List α} :
    (entry ∈ entries.map fun e => (e.1, if e.1 = key then e.2 ++ [item] else e.2)) ↔
      entry ∈ entries ∧ entry.1 ≠ key ∨
        ∃ items, (key, items) ∈ entries ∧ entry = (key, items ++ [item]) := by
  rw [List.mem_map]
  constructor
  · rintro ⟨⟨key', items⟩, hmem, rfl⟩
    by_cases hkey : key' = key
    · subst hkey
      exact Or.inr ⟨items, hmem, by rw [if_pos rfl]⟩
    · rw [if_neg hkey]
      exact Or.inl ⟨hmem, hkey⟩
  · rintro (⟨hmem, hkey⟩ | ⟨items, hmem, rfl⟩)
    · exact ⟨entry, hmem, by rw [if_neg hkey]⟩
    · exact ⟨_, hmem, by rw [if_pos rfl]⟩

end LightningLottery
