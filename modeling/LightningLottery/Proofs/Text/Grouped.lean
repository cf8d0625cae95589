/-
  Numbers in groups of three digits.

  * `ofList_sign_decimal`: sign and digits are the usual text of a number.
  * `CutInThrees`: the groups of three that a text is cut into from the right. There is one way to do
    it (`CutInThrees.unique`), and grouped digits are those groups joined (`exists_groups`).
  * `eraseAll`: a text without the occurrences of a pattern; `eraseAll_intercalate`: what joins
    pieces is taken out again.
  * `beautify_grouped`: grouped numbers, and how they are read back.
-/
import LightningLottery.Proofs.Text.Radix

namespace LightningLottery

/-! ## Sign and digits -/

/-- The sign in front of a number: none unless it is negative. -/
def sign (n : Int) : List Char := if n < 0 then ['-'] else []

theorem ofList_sign_decimal (n : Int) :
    String.ofList (sign n ++ decimal n.natAbs) = toString n := by
  rw [Int.toString_eq_repr, Int.repr_eq_if, decimal_eq_toDigits, sign]
  by_cases h : n < 0
  · have habs : n.natAbs = (-n).toNat := by omega
    rw [if_pos h, if_neg (Int.not_le.2 h), String.ofList_append, habs, Nat.repr_eq_ofList_toDigits]
  · have habs : n.natAbs = n.toNat := by omega
    rw [if_neg h, if_pos (Int.not_lt.1 h), List.nil_append, habs, Nat.repr_eq_ofList_toDigits]

/-! ## Groups -/

/-- The groups of three that a text is cut into from the right: the first one has one to three
    characters, all others three. -/
structure CutInThrees (text : List Char) (groups : List (List Char)) : Prop where
  flatten_eq : groups.flatten = text
  first : ∀ group ∈ groups.head?, 1 ≤ group.length ∧ group.length ≤ 3
  later : ∀ group ∈ groups.tail, group.length = 3

namespace CutInThrees

variable {text first : List Char} {groups later : List (List Char)}

theorem map_length (h : CutInThrees text (first :: later)) :
    later.map List.length = List.replicate later.length 3 :=
  List.map_eq_replicate_iff.2 h.later

theorem length_eq (h : CutInThrees text (first :: later)) :
    text.length = first.length + 3 * later.length := by
  rw [← h.flatten_eq, List.flatten_cons, List.length_append, List.length_flatten, h.map_length,
    List.sum_replicate_nat, Nat.mul_comm]

/-- There is one way to cut a text into groups of three. -/
theorem unique {other : List (List Char)} (h : CutInThrees text groups)
    (ho : CutInThrees text other) : groups = other := by
  cases groups with
  | nil =>
    cases other with
    | nil => rfl
    | cons first later =>
      have hlength := ho.length_eq
      have hfirst := ho.first first rfl
      rw [← h.flatten_eq, List.flatten_nil, List.length_nil] at hlength
      omega
  | cons first later =>
    have hlength := h.length_eq
    have hfirst := h.first first rfl
    cases other with
    | nil =>
      rw [← ho.flatten_eq, List.flatten_nil, List.length_nil] at hlength
      omega
    | cons first' later' =>
      have hlength' := ho.length_eq
      have hfirst' := ho.first first' rfl
      refine List.eq_iff_flatten_eq.2 ⟨h.flatten_eq.trans ho.flatten_eq.symm, ?_⟩
      have hsame : first.length = first'.length := by omega
      have hcount : later.length = later'.length := by omega
      rw [List.map_cons, List.map_cons, h.map_length, ho.map_length, hsame, hcount]

theorem single (c : Char) : CutInThrees [c] [[c]] := by
  refine ⟨rfl, ?_, nofun⟩
  rintro _ ⟨⟩
  exact ⟨Nat.le_refl 1, Nat.le_add_left 1 2⟩

/-- One more digit in front of full groups makes a group of its own. -/
theorem open_group (h : CutInThrees text (first :: later)) (hfull : first.length = 3) (c : Char) :
    CutInThrees (c :: text) ([c] :: first :: later) := by
  refine ⟨?_, (single c).first, ?_⟩
  · rw [List.flatten_cons, h.flatten_eq, List.singleton_append]
  · rintro group (_ | ⟨_, hgroup⟩)
    · exact hfull
    · exact h.later group hgroup

/-- One more digit in front of a group that is not full joins it. -/
theorem fill_group (h : CutInThrees text (first :: later)) (hroom : first.length < 3) (c : Char) :
    CutInThrees (c :: text) ((c :: first) :: later) := by
  refine ⟨?_, ?_, h.later⟩
  · rw [List.flatten_cons, List.cons_append, ← List.flatten_cons, h.flatten_eq]
  · rintro _ ⟨⟩
    rw [List.length_cons]
    omega

end CutInThrees

/-- Grouped digits are the groups, joined by the separator. -/
theorem exists_groups (separator : List Char) (c : Char) (rest : List Char) :
    ∃ first later, CutInThrees (c :: rest) (first :: later) ∧
      groupDigits separator (c :: rest) = separator.intercalate (first :: later) := by
  induction rest generalizing c with
  | nil => exact ⟨[c], [], .single c, by simp [groupDigits, groupTail]⟩
  | cons d rest ih =>
    obtain ⟨first, later, hcut, hjoined⟩ := ih d
    have hlength := hcut.length_eq
    obtain ⟨hpos, hle⟩ := hcut.first first rfl
    rw [List.length_cons] at hlength
    rw [groupDigits] at hjoined
    rw [groupDigits, groupTail]
    -- a separator stands behind `c` just when the groups of the digits left are full
    by_cases hfull : first.length = 3
    · refine ⟨[c], first :: later, hcut.open_group hfull c, ?_⟩
      have hthird : ((rest.length + 1) % 3 == 0) = true := by
        rw [beq_iff_eq]
        omega
      rw [if_pos hthird, hjoined, List.intercalate_cons_cons, List.append_assoc,
        List.singleton_append]
    · refine ⟨c :: first, later, hcut.fill_group (by omega) c, ?_⟩
      have hthird : ¬ ((rest.length + 1) % 3 == 0) = true := by
        rw [beq_iff_eq]
        omega
      rw [if_neg hthird, List.nil_append, hjoined]
      cases later with
      | nil => simp
      | cons second later =>
        rw [List.intercalate_cons_cons, List.intercalate_cons_cons, List.cons_append,
          List.cons_append]

/-! ## Taking the separators out -/

/-- A text without the occurrences of a pattern, each looked for behind the one before. -/
def eraseAll (pattern : List Char) : List Char → List Char
  | [] => []
  | c :: rest =>
    if pattern ≠ [] ∧ pattern <+: c :: rest then
      eraseAll pattern ((c :: rest).drop pattern.length)
    else c :: eraseAll pattern rest
termination_by text => text.length
decreasing_by
  · next h =>
    have := List.length_pos_iff.2 h.1
    rw [List.length_drop, List.length_cons]
    omega
  · exact Nat.lt_succ_self _

theorem eraseAll_append {pattern text : List Char} (h : ∀ c ∈ text, c ∉ pattern)
    (rest : List Char) : eraseAll pattern (text ++ rest) = text ++ eraseAll pattern rest := by
  induction text with
  | nil => rfl
  | cons c text ih =>
    rw [List.forall_mem_cons] at h
    have hstart : ¬ (pattern ≠ [] ∧ pattern <+: c :: (text ++ rest)) := by
      rintro ⟨hne, hstarts⟩
      obtain ⟨p, ps, rfl⟩ := List.exists_cons_of_ne_nil hne
      rw [List.cons_prefix_cons] at hstarts
      exact h.1 (hstarts.1 ▸ List.mem_cons_self)
    rw [List.cons_append, eraseAll, if_neg hstart, ih h.2, List.cons_append]

theorem eraseAll_pattern (pattern rest : List Char) :
    eraseAll pattern (pattern ++ rest) = eraseAll pattern rest := by
  cases pattern with
  | nil => rfl
  | cons p ps =>
    have hstart : p :: ps ≠ [] ∧ p :: ps <+: p :: (ps ++ rest) :=
      ⟨List.cons_ne_nil p ps, List.prefix_append (p :: ps) rest⟩
    rw [List.cons_append, eraseAll, if_pos hstart, ← List.cons_append, List.drop_left]

theorem eraseAll_intercalate {pattern : List Char} {pieces : List (List Char)}
    (h : ∀ c ∈ pieces.flatten, c ∉ pattern) :
    eraseAll pattern (pattern.intercalate pieces) = pieces.flatten := by
  induction pieces with
  | nil => simp [eraseAll]
  | cons piece pieces ih =>
    rw [List.flatten_cons, List.forall_mem_append] at h
    cases pieces with
    | nil =>
      have hkept := eraseAll_append h.1 []
      rw [List.append_nil, eraseAll, List.append_nil] at hkept
      simpa using hkept
    | cons second pieces =>
      rw [List.intercalate_cons_cons, List.append_assoc, eraseAll_append h.1, eraseAll_pattern,
        ih h.2, List.flatten_cons (l := piece)]

/-! ## Signed numbers -/

theorem toList_beautify (n : Int64) (separator : String) :
    (beautify n separator).toList =
      sign n.toInt ++ groupDigits separator.toList (decimal n.toInt.natAbs) := by
  rw [beautify, String.toList_ofList, sign]
  split <;> rfl

/-- Behind the sign stand the digits of the usual text in groups of three. -/
theorem exists_cutInThrees_beautify (n : Int64) (separator : String) :
    ∃ groups, CutInThrees (decimal n.toInt.natAbs) groups ∧
      (beautify n separator).toList = sign n.toInt ++ separator.toList.intercalate groups := by
  obtain ⟨c, rest, hdecimal⟩ := List.exists_cons_of_ne_nil (l := decimal n.toInt.natAbs) (by
    rw [decimal_eq_toDigits]
    exact Nat.toDigits_ne_nil)
  obtain ⟨first, later, hcut, hjoined⟩ := exists_groups separator.toList c rest
  rw [← hdecimal] at hcut hjoined
  exact ⟨first :: later, hcut, by rw [toList_beautify, hjoined]⟩

/-- A separator without digits and minus signs is removed by `eraseAll`. -/
theorem ofList_eraseAll_beautify {separator : String}
    (h : ∀ c ∈ separator.toList, ¬ c.isDigit = true ∧ c ≠ '-') (n : Int64) :
    String.ofList (eraseAll separator.toList (beautify n separator).toList) = toString n.toInt := by
  obtain ⟨groups, hcut, hshown⟩ := exists_cutInThrees_beautify n separator
  have hsign : ∀ c ∈ sign n.toInt, c ∉ separator.toList := by
    intro c hc hmem
    have hminus : c = '-' := by
      unfold sign at hc
      split at hc
      · exact List.mem_singleton.1 hc
      · exact absurd hc List.not_mem_nil
    exact (h c hmem).2 hminus
  have hdigits : ∀ c ∈ groups.flatten, c ∉ separator.toList := by
    intro c hc hmem
    rw [hcut.flatten_eq] at hc
    exact (h c hmem).1 (isDigit_of_mem_decimal hc)
  rw [hshown, eraseAll_append hsign, eraseAll_intercalate hdigits, hcut.flatten_eq,
    ofList_sign_decimal]

/-- **`beautify` groups the digits in threes from the right** (`CutInThrees`), behind the sign. A
    separator without digits and minus signs can be removed again, which leaves the usual text of
    the number; so different numbers have different texts. -/
theorem beautify_grouped (n : Int64) (separator : String) :
    (∃ groups, (∀ cut, CutInThrees (toString n.toInt.natAbs).toList cut ↔ cut = groups) ∧
      (beautify n separator).toList = sign n.toInt ++ separator.toList.intercalate groups) ∧
    ((∀ c ∈ separator.toList, ¬ c.isDigit = true ∧ c ≠ '-') →
      String.ofList (eraseAll separator.toList (beautify n separator).toList) = toString n.toInt ∧
      ∀ m, beautify m separator = beautify n separator → m = n) := by
  constructor
  · obtain ⟨groups, hcut, hshown⟩ := exists_cutInThrees_beautify n separator
    rw [toList_toString]
    exact ⟨groups, fun cut => ⟨fun h => h.unique hcut, fun h => h ▸ hcut⟩, hshown⟩
  · intro hforeign
    refine ⟨ofList_eraseAll_beautify hforeign n, fun m hm => ?_⟩
    have htext : toString m.toInt = toString n.toInt := by
      rw [← ofList_eraseAll_beautify hforeign m, hm, ofList_eraseAll_beautify hforeign n]
    rw [Int.toString_eq_repr, Int.toString_eq_repr] at htext
    exact Int64.toInt_inj.1 (Int.repr_inj.1 htext)

/-- The least number, as it is shown by default. -/
theorem beautify_grouped_least :
    (∀ c ∈ defaultSeparator.toList, ¬ c.isDigit = true ∧ c ≠ '-') ∧
      String.ofList (eraseAll defaultSeparator.toList
        (beautify Int64.minValue defaultSeparator).toList) = "-9223372036854775808" ∧
      ∀ m, beautify m defaultSeparator = beautify Int64.minValue defaultSeparator →
        m = Int64.minValue := by
  have hforeign : ∀ c ∈ defaultSeparator.toList, ¬ c.isDigit = true ∧ c ≠ '-' := by
    simp [defaultSeparator]
  have htext : toString Int64.minValue.toInt = "-9223372036854775808" := by cbv
  obtain ⟨hread, hdistinct⟩ := (beautify_grouped Int64.minValue defaultSeparator).2 hforeign
  exact ⟨hforeign, hread.trans htext, hdistinct⟩

end LightningLottery
