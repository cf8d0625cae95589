/-
  Different places of a pool have different nicknames.

  * `IsNameWord`: a capital letter and small letters behind it.
  * `IsNameWord.append_inj`: such a word can be told from what stands behind it.
  * `name_inj`: a nickname tells its two words and its number.
  * `NicknamePool.IsClean`: pools of such words, none of them there twice.
  * `NicknamePool.nameAt_inj`: in a clean pool a nickname tells its place.
  * `NicknamePool.exists_indexOf`: every place is that of a key.
  * `NicknamePool.isClean_bundled`: the bundled pool is clean.
  * `NicknamePool.nickname_distinct`: keys share a nickname exactly if they share a place, and a
    pool has as many nicknames as its size says.
-/
import LightningLottery.Proofs.Nickname.Place
import LightningLottery.Proofs.Text.Split

namespace LightningLottery

/-! ## Words -/

/-- A capital letter and small letters behind it, all of them ASCII. -/
def IsNameWord (word : String) : Prop :=
  ∃ c cs, word.toList = c :: cs ∧ c.isUpper = true ∧ ∀ d ∈ cs, d.isLower = true

def isNameWord (word : String) : Bool :=
  match word.toList with
  | [] => false
  | c :: cs => c.isUpper && cs.all Char.isLower

theorem isNameWord_iff {word : String} : isNameWord word = true ↔ IsNameWord word := by
  unfold isNameWord IsNameWord
  cases word.toList with
  | nil => simp
  | cons c cs => simp

instance : DecidablePred IsNameWord := fun _ => decidable_of_iff _ isNameWord_iff

/-- Characters that do not go on with a word. -/
def EndsWord (cs : List Char) : Prop := ∀ c ∈ cs.head?, c.isLower = false

theorem IsNameWord.endsWord {word : String} (h : IsNameWord word) (rest : List Char) :
    EndsWord (word.toList ++ rest) := by
  obtain ⟨c, cs, hword, hc, -⟩ := h
  rw [hword]
  rintro d ⟨⟩
  simpa using Char.not_isLower_of_isUpper hc

theorem endsWord_decimal (n : Nat) : EndsWord (decimal n) := by
  intro c hc
  obtain ⟨d, hd, rfl⟩ := exists_decimalDigit (List.mem_of_mem_head? hc)
  have hdigit : ∀ d < 10, (decimalDigit d).isLower = false := by decide
  exact hdigit d hd

/-- **A word in front of a text determines where it ends.** -/
theorem IsNameWord.append_inj {word word' : String} {rest rest' : List Char}
    (hword : IsNameWord word) (hword' : IsNameWord word') (hrest : EndsWord rest)
    (hrest' : EndsWord rest') (h : word.toList ++ rest = word'.toList ++ rest') :
    word = word' ∧ rest = rest' := by
  obtain ⟨c, cs, hc, -, hcs⟩ := hword
  obtain ⟨d, ds, hd, -, hds⟩ := hword'
  rw [hc, hd, List.cons_append, List.cons_append, List.cons.injEq] at h
  obtain ⟨rfl, htail⟩ := h
  -- both tails are cut where small letters end
  obtain ⟨htake, hdrop⟩ := span_append hcs hrest
  obtain ⟨htake', hdrop'⟩ := span_append hds hrest'
  rw [htail] at htake hdrop
  refine ⟨String.toList_injective ?_, hdrop.symm.trans hdrop'⟩
  rw [hc, hd, htake.symm.trans htake']

/-- **A name determines its two words and its number.** -/
theorem name_inj {adjective adjective' noun noun' : String} {m n : Nat}
    (hadjective : IsNameWord adjective) (hadjective' : IsNameWord adjective')
    (hnoun : IsNameWord noun) (hnoun' : IsNameWord noun')
    (h : adjective ++ noun ++ decimalText m = adjective' ++ noun' ++ decimalText n) :
    adjective = adjective' ∧ noun = noun' ∧ m = n := by
  have hchars := congrArg String.toList h
  simp only [String.toList_append, decimalText, String.toList_ofList, List.append_assoc] at hchars
  obtain ⟨hadjectives, hrest⟩ :=
    hadjective.append_inj hadjective' (hnoun.endsWord _) (hnoun'.endsWord _) hchars
  obtain ⟨hnouns, hnumbers⟩ :=
    hnoun.append_inj hnoun' (endsWord_decimal m) (endsWord_decimal n) hrest
  exact ⟨hadjectives, hnouns, decimal_injective hnumbers⟩

namespace NicknamePool

variable {pool : NicknamePool} {i j k r : Nat}

/-! ## Clean pools -/

/-- Each word of the pool is one of nicknames, and is in its list once. -/
structure IsClean (pool : NicknamePool) : Prop where
  adjectives_nodup : pool.adjectives.Nodup
  nouns_nodup : pool.nouns.Nodup
  adjectives_words : ∀ word ∈ pool.adjectives, IsNameWord word
  nouns_words : ∀ word ∈ pool.nouns, IsNameWord word

/-- **In a clean pool `nameAt` is injective.** -/
theorem nameAt_inj (hclean : pool.IsClean) (hi : i < pool.size) (hj : j < pool.size) :
    pool.nameAt i = pool.nameAt j ↔ i = j := by
  constructor
  swap
  · rintro rfl
    rfl
  intro h
  rw [pool.nameAt_eq hi, pool.nameAt_eq hj] at h
  obtain ⟨hadjective, hnoun, hnumber⟩ := name_inj
    (hclean.adjectives_words _ (List.get_mem _ _)) (hclean.adjectives_words _ (List.get_mem _ _))
    (hclean.nouns_words _ (List.get_mem _ _)) (hclean.nouns_words _ (List.get_mem _ _)) h
  have hfirst := Fin.mk.inj (hclean.adjectives_nodup.get_inj_iff.1 hadjective)
  have hsecond := Fin.mk.inj (hclean.nouns_nodup.get_inj_iff.1 hnoun)
  rw [pool.place_eq i, pool.place_eq j, hfirst, hsecond, hnumber]

theorem injOn_nameAt (hclean : pool.IsClean) : Set.InjOn pool.nameAt (Finset.range pool.size) := by
  intro i hi j hj h
  exact (nameAt_inj hclean (Finset.mem_range.1 hi) (Finset.mem_range.1 hj)).1 h

/-! ## All places -/

theorem exists_share (h : r < scale) : ∃ k < 2 ^ 256, share k = r := by
  have hcount := keyCount_eq
  have hscale := scale_eq
  refine ⟨r * keyCount / scale, ?_, ?_⟩
  · rw [hscale] at h ⊢
    rw [hcount]
    omega
  · rw [share, hcount, hscale] at *
    omega

/-- Every place is that of a number: the first share that reaches the place does not reach the next
    one. -/
theorem exists_indexOfNumber (hsize : pool.size ≤ scale) (hi : i < pool.size) :
    ∃ k < 2 ^ 256, pool.indexOfNumber k = i := by
  obtain ⟨r, hlow, hhigh⟩ : ∃ r, i * scale ≤ r * pool.size ∧ r * pool.size < (i + 1) * scale := by
    refine ⟨(i * scale + (pool.size - 1)) / pool.size, ?_⟩
    have hdiv := Nat.div_add_mod' (i * scale + (pool.size - 1)) pool.size
    have hmod := Nat.mod_lt (i * scale + (pool.size - 1)) pool.size_pos
    rw [Nat.add_one_mul]
    omega
  have hshort : r < scale := by
    refine Nat.lt_of_mul_lt_mul_right (a := pool.size) (Nat.lt_of_lt_of_le hhigh ?_)
    rw [Nat.mul_comm scale]
    exact Nat.mul_le_mul_right _ hi
  obtain ⟨k, hk, hshare⟩ := exists_share hshort
  refine ⟨k, hk, ?_⟩
  rw [indexOfNumber, hshare, Nat.div_eq_of_lt_le hlow hhigh]
  exact Nat.min_eq_left (Nat.le_sub_one_of_lt hi)

/-- **Every place is that of a key.** -/
theorem exists_indexOf (hsize : pool.size ≤ scale) (hi : i < pool.size) :
    ∃ key, pool.indexOf key = i := by
  obtain ⟨k, hk, hplace⟩ := exists_indexOfNumber hsize hi
  obtain ⟨key, rfl⟩ := exists_keyNumber hk
  exact ⟨key, (pool.indexOf_eq key).trans hplace⟩

/-! ## The bundled pool -/

theorem nodup_of_isChain {words : List String}
    (h : ((words.map String.toList).insertionSort (· ≤ ·)).IsChain (· < ·)) : words.Nodup := by
  have hsorted := (List.isChain_iff_pairwise.1 h).imp fun hlt => ne_of_lt hlt
  have hperm := List.perm_insertionSort (· ≤ ·) (words.map String.toList)
  exact List.Nodup.of_map _ (hperm.nodup_iff.1 hsorted)

/-- **The bundled pool is clean.** -/
theorem isClean_bundled : bundled.IsClean where
  adjectives_nodup := nodup_of_isChain (by decide +kernel)
  nouns_nodup := nodup_of_isChain (by decide +kernel)
  adjectives_words := by decide +kernel
  nouns_words := by decide +kernel

/-! ## Nicknames of keys -/

theorem range_nickname (hsize : pool.size ≤ scale) :
    Set.range pool.nickname = (Finset.range pool.size).image pool.nameAt := by
  ext name
  simp only [Set.mem_range, Finset.coe_image, Set.mem_image, Finset.mem_coe, Finset.mem_range]
  constructor
  · rintro ⟨key, rfl⟩
    exact ⟨pool.indexOf key, pool.indexOf_lt key, rfl⟩
  · rintro ⟨i, hi, rfl⟩
    obtain ⟨key, hkey⟩ := exists_indexOf hsize hi
    exact ⟨key, congrArg pool.nameAt hkey⟩

/-- **Nicknames are equal if and only if the places are**, in a pool that is clean (`IsClean`). So
    there are as many as `size` says, and all of them are nicknames of keys if `size` is a word. -/
theorem nickname_distinct (hclean : pool.IsClean) :
    (∀ key key', pool.nickname key = pool.nickname key' ↔ pool.indexOf key = pool.indexOf key') ∧
      (∀ i < pool.size, ∀ j < pool.size, pool.nameAt i = pool.nameAt j ↔ i = j) ∧
      ((Finset.range pool.size).image pool.nameAt).card = pool.size ∧
      (pool.size < wordLimit → (Set.range pool.nickname).ncard = pool.size) := by
  have hcard : ((Finset.range pool.size).image pool.nameAt).card = pool.size := by
    rw [Finset.card_image_of_injOn (injOn_nameAt hclean), Finset.card_range]
  refine ⟨?_, ?_, hcard, ?_⟩
  · intro key key'
    exact nameAt_inj hclean (pool.indexOf_lt key) (pool.indexOf_lt key')
  · intro i hi j hj
    exact nameAt_inj hclean hi hj
  · intro hsize
    have hscale : pool.size ≤ scale := by
      simp only [wordLimit, scale] at hsize ⊢
      omega
    rw [range_nickname hscale, Set.ncard_coe_finset, hcard]

/-- All names of the bundled pool are nicknames of keys. -/
theorem nickname_distinct_bundled :
    bundled.IsClean ∧ (Set.range bundled.nickname).ncard = 135960903 := by
  obtain ⟨-, -, -, hkeys⟩ := nickname_distinct isClean_bundled
  have hsize : bundled.size = 135960903 := by decide +kernel
  have hword : bundled.size < wordLimit := by simp [hsize, wordLimit]
  exact ⟨isClean_bundled, (hkeys hword).trans hsize⟩

end NicknamePool
end LightningLottery
