/-
  Numbers that are written and read again.

  * `Json.digitsOf`: the digits of a number; `Json.digits_decimal` reads them off.
  * `Json.Ends`: what may follow a value, which no number goes on with.
  * `Json.exists_numeral`: a number is read as it is written, whatever follows.
  * `Json.readNumber_whole`: a whole number of at most 64 bits is read as itself.
-/
import LightningLottery.Proofs.Json.Text

namespace LightningLottery.Json

/-! ## Digits -/

/-- The decimal digits of a number, the first one first. -/
def digitsOf (n : Nat) : List Nat := if n < 10 then [n] else digitsOf (n / 10) ++ [n % 10]

theorem digitsOf_ne_nil (n : Nat) : digitsOf n ≠ [] := by
  rw [digitsOf]
  split
  · exact List.cons_ne_nil _ _
  · exact List.append_ne_nil_of_right_ne_nil _ (List.cons_ne_nil _ _)

theorem lt_ten_of_mem (n : Nat) : ∀ d ∈ digitsOf n, d < 10 := by
  induction n using digitsOf.induct with
  | case1 n h =>
    rw [digitsOf, if_pos h]
    exact List.forall_mem_singleton.2 h
  | case2 n h ih =>
    rw [digitsOf, if_neg h]
    exact List.forall_mem_append.2 ⟨ih, List.forall_mem_singleton.2 (Nat.mod_lt _ (by decide))⟩

theorem digitsOf_eq_zero_cons {n : Nat} {ds : List Nat} (h : digitsOf n = 0 :: ds) : ds = [] := by
  have hzero : ∀ n ds, digitsOf n = 0 :: ds → n = 0 := by
    intro n
    induction n using digitsOf.induct with
    | case1 n hsmall =>
      intro ds h
      rw [digitsOf, if_pos hsmall] at h
      exact (List.cons.inj h).1
    | case2 n hlarge ih =>
      intro ds h
      rw [digitsOf, if_neg hlarge] at h
      obtain ⟨d, more, hd⟩ := List.exists_cons_of_ne_nil (digitsOf_ne_nil (n / 10))
      rw [hd, List.cons_append] at h
      have hfirst := ih more (by rw [hd, (List.cons.inj h).1])
      omega
  rw [hzero n ds h, digitsOf, if_pos (by decide)] at h
  exact (List.cons.inj h).2.symm

theorem decimal_eq (n : Nat) : decimal n = (digitsOf n).map decimalDigit := by
  induction n using digitsOf.induct with
  | case1 n h => rw [decimal, digitsOf, if_pos h, if_pos h, List.map_singleton]
  | case2 n h ih =>
    rw [decimal, digitsOf, if_neg h, if_neg h, ih, List.map_append, List.map_singleton]

theorem bytesOf_decimal (n : Nat) :
    bytesOf (decimal n) = (digitsOf n).map fun d => byte (decimalDigit d) := by
  have hdigits : ∀ ds : List Nat, (∀ d ∈ ds, d < 10) →
      bytesOf (ds.map decimalDigit) = ds.map fun d => byte (decimalDigit d) := by
    intro ds
    induction ds with
    | nil => exact fun _ => rfl
    | cons d ds ih =>
      intro h
      obtain ⟨hd, hds⟩ := List.forall_mem_cons.1 h
      have hascii : ∀ d < 10, (decimalDigit d).toNat < 128 := by decide
      rw [List.map_cons, bytesOf_ascii (hascii d hd), ih hds, List.map_cons]
  rw [decimal_eq, hdigits _ (lt_ten_of_mem n)]

theorem digit_byte : ∀ d < 10, isDigitByte (byte (decimalDigit d)) = true ∧
    digitOf (byte (decimalDigit d)) = d := by decide

/-- What no digits go on with. -/
def NoDigit (rest : Bytes) : Prop := ∀ b ∈ rest.head?, isDigitByte b = false

/-- **The digits of a number are read off**, and nothing more. -/
theorem digits_decimal (n : Nat) {rest : Bytes} (h : NoDigit rest) :
    digits (bytesOf (decimal n) ++ rest) = (digitsOf n, rest) := by
  have hall : ∀ b ∈ (digitsOf n).map fun d => byte (decimalDigit d), isDigitByte b = true := by
    intro b hb
    obtain ⟨d, hd, rfl⟩ := List.mem_map.1 hb
    exact (digit_byte d (lt_ten_of_mem n d hd)).1
  have hstop : rest.takeWhile isDigitByte = [] ∧ rest.dropWhile isDigitByte = rest := by
    cases rest with
    | nil => exact ⟨rfl, rfl⟩
    | cons b rest =>
      have hb : ¬isDigitByte b = true := Bool.eq_false_iff.1 (h b rfl)
      exact ⟨List.takeWhile_cons_of_neg hb, List.dropWhile_cons_of_neg hb⟩
  have hvalues : ((digitsOf n).map fun d => byte (decimalDigit d)).map digitOf = digitsOf n := by
    rw [List.map_map]
    exact (List.map_congr_left fun d hd => (digit_byte d (lt_ten_of_mem n d hd)).2).trans
      (List.map_id _)
  rw [digits, bytesOf_decimal, List.takeWhile_append_of_pos hall, List.dropWhile_append_of_pos hall,
    hstop.1, hstop.2, List.append_nil, hvalues]

/-! ## Parts of a number -/

theorem wholePart_decimal (atEnd : Fault) (n : Nat) {rest : Bytes} (h : NoDigit rest) :
    wholePart atEnd (bytesOf (decimal n) ++ rest) = .ok (digitsOf n, rest) := by
  rw [wholePart, digits_decimal n h]
  split
  · next hdigits => exact absurd (congrArg Prod.fst hdigits) (digitsOf_ne_nil n)
  · next hdigits => cases digitsOf_eq_zero_cons (congrArg Prod.fst hdigits)
  · next hdigits => cases hdigits; rfl

theorem fractionPart_of_ne (atEnd : Fault) {rest : Bytes} (h : ∀ b ∈ rest.head?, b ≠ byte '.') :
    fractionPart atEnd rest = .ok (none, rest) := by
  cases rest with
  | nil => rfl
  | cons b rest => rw [fractionPart, if_neg (by simpa using h b rfl)]

theorem exponentPart_of_ne (atEnd : Fault) {rest : Bytes}
    (h : ∀ b ∈ rest.head?, b ≠ byte 'e' ∧ b ≠ byte 'E') :
    exponentPart atEnd rest = .ok (none, rest) := by
  cases rest with
  | nil => rfl
  | cons b rest => rw [exponentPart, if_neg (by simpa using h b rfl)]

theorem exists_decimal_cons (n : Nat) :
    ∃ d < 10, ∃ more, bytesOf (decimal n) = byte (decimalDigit d) :: more := by
  obtain ⟨d, ds, hds⟩ := List.exists_cons_of_ne_nil (digitsOf_ne_nil n)
  have hd : d < 10 := lt_ten_of_mem n d (by rw [hds]; exact List.mem_cons_self)
  exact ⟨d, hd, _, by rw [bytesOf_decimal, hds, List.map_cons]⟩

theorem digit_ne_sign : ∀ d < 10, byte (decimalDigit d) ≠ byte '-' ∧
    byte (decimalDigit d) ≠ byte '+' := by decide

theorem signedText_eq (n : Int) :
    signedText n = (if decide (n < 0) then ['-'] else []) ++ decimal n.natAbs := by
  rw [signedText]
  by_cases h : n < 0 <;> simp [h]

theorem exponentSign_signed (negative : Bool) (n : Nat) (rest : Bytes) :
    exponentSign (bytesOf ((if negative then ['-'] else []) ++ decimal n) ++ rest) =
      (negative, bytesOf (decimal n) ++ rest) := by
  obtain ⟨d, hd, more, hmore⟩ := exists_decimal_cons n
  obtain ⟨hminus, hplus⟩ := digit_ne_sign d hd
  cases negative with
  | true => rfl
  | false =>
    simp only [Bool.false_eq_true, if_false, List.nil_append, hmore, List.cons_append,
      exponentSign, beq_iff_eq, hminus, hplus]

theorem exponentPart_signed (atEnd : Fault) (n : Int) {rest : Bytes} (h : NoDigit rest) :
    exponentPart atEnd (bytesOf ('e' :: signedText n) ++ rest) =
      .ok (some (decide (n < 0), digitsOf n.natAbs), rest) := by
  rw [bytesOf_ascii (by decide), List.cons_append, exponentPart, signedText_eq,
    exponentSign_signed]
  simp only [beq_self_eq_true, Bool.true_or, if_true, digits_decimal _ h]
  split
  · next hdigits => exact absurd (congrArg Prod.fst hdigits) (digitsOf_ne_nil _)
  · next hdigits => cases hdigits; rfl

/-- The sign and the digits in front of a number are read off. -/
theorem numeral_signed (atEnd : Fault) (negative : Bool) (n : Nat) {rest : Bytes}
    (h : NoDigit rest) :
    numeral atEnd (bytesOf ((if negative then ['-'] else []) ++ decimal n) ++ rest) = do
      let (fraction, rest) ← fractionPart atEnd rest
      let (exponent, rest) ← exponentPart atEnd rest
      return (⟨negative, digitsOf n, fraction, exponent⟩, rest) := by
  have hwhole := wholePart_decimal atEnd n h
  cases negative with
  | true =>
    have hsign : bytesOf ('-' :: decimal n) = byte '-' :: bytesOf (decimal n) :=
      bytesOf_ascii (by decide) _
    simp only [if_true, List.cons_append, List.nil_append, hsign, numeral, beq_self_eq_true, hwhole]
    rfl
  | false =>
    obtain ⟨d, hd, more, hmore⟩ := exists_decimal_cons n
    simp only [Bool.false_eq_true, if_false, List.nil_append]
    rw [hmore, List.cons_append] at hwhole ⊢
    simp only [numeral, beq_iff_eq, (digit_ne_sign d hd).1, if_false, hwhole]
    rfl

/-! ## Numbers -/

/-- What may follow a value. -/
def Ends (rest : Bytes) : Prop := ∀ b ∈ rest.head?, b ∈ [byte ',', byte ']', byte '\x7d']

theorem ends_nil : Ends [] := nofun

theorem Ends.head {rest : Bytes} (h : Ends rest) : ∀ b ∈ rest.head?,
    isDigitByte b = false ∧ b ≠ byte '.' ∧ b ≠ byte 'e' ∧ b ≠ byte 'E' := by
  have hends : ∀ b ∈ [byte ',', byte ']', byte '\x7d'],
      isDigitByte b = false ∧ b ≠ byte '.' ∧ b ≠ byte 'e' ∧ b ≠ byte 'E' := by
    decide +kernel
  exact fun b hb => hends b (h b hb)

/-- **A number is read as it is written**, whatever follows it. -/
theorem exists_numeral (n : JsonNumber) :
    ∃ written, ∀ atEnd rest, Ends rest →
      numeral atEnd (bytesOf n.chars ++ rest) = .ok (written, rest) := by
  cases n with
  | whole n =>
    refine ⟨⟨decide (n < 0), digitsOf n.natAbs, none, none⟩, fun atEnd rest h => ?_⟩
    rw [JsonNumber.chars, signedText_eq, numeral_signed atEnd _ _ fun b hb => (h.head b hb).1,
      fractionPart_of_ne atEnd fun b hb => (h.head b hb).2.1]
    simp only [bind, Except.bind, exponentPart_of_ne atEnd fun b hb => (h.head b hb).2.2]
    rfl
  | real negative significand exponent =>
    refine ⟨⟨negative, digitsOf significand, none,
      some (decide (exponent < 0), digitsOf exponent.natAbs)⟩, fun atEnd rest h => ?_⟩
    have hhead : ∀ b ∈ (bytesOf ('e' :: signedText exponent) ++ rest).head?, b = byte 'e' := by
      intro b hb
      rw [bytesOf_ascii (by decide), List.cons_append] at hb
      exact (Option.some.inj hb).symm
    rw [JsonNumber.chars, bytesOf_append, List.append_assoc,
      numeral_signed atEnd _ _ fun b hb => by rw [hhead b hb]; rfl,
      fractionPart_of_ne atEnd fun b hb => by rw [hhead b hb]; decide]
    simp only [bind, Except.bind, exponentPart_signed atEnd exponent fun b hb => (h.head b hb).1]
    rfl

theorem skipNumber_chars (n : JsonNumber) {rest : Bytes} (h : Ends rest) :
    skipNumber (bytesOf n.chars ++ rest) = .ok rest := by
  obtain ⟨written, hread⟩ := exists_numeral n
  rw [skipNumber, hread _ _ h]
  rfl

/-- What follows a number does not change its value. -/
theorem readNumber_append (n : JsonNumber) {rest : Bytes} (h : Ends rest) :
    readNumber (bytesOf n.chars ++ rest) = readNumber (bytesOf n.chars) := by
  obtain ⟨written, hread⟩ := exists_numeral n
  have halone := hread .unfinished [] ends_nil
  rw [List.append_nil] at halone
  rw [readNumber, readNumber, hread _ _ h, halone]
  rfl

/-! ## Whole numbers -/

theorem significand_concat {n m d : Nat} {ds : List Nat} (h : significand n ds = (m, 0))
    (hd : m * 10 + d < wordLimit) : significand n (ds ++ [d]) = (m * 10 + d, 0) := by
  induction ds generalizing n with
  | nil =>
    obtain rfl : n = m := congrArg Prod.fst h
    rw [List.nil_append, significand, if_pos hd, significand]
  | cons d' ds ih =>
    rw [significand] at h
    rw [List.cons_append, significand]
    split at h
    · next hsmall =>
      rw [if_pos hsmall]
      exact ih h
    · cases h

/-- The digits of a number of at most 64 bits are all taken. -/
theorem significand_digitsOf {n : Nat} (h : n < wordLimit) : significand 0 (digitsOf n) = (n, 0) := by
  induction n using digitsOf.induct with
  | case1 n hsmall =>
    rw [digitsOf, if_pos hsmall, significand, if_pos (by omega), significand, Nat.zero_mul,
      Nat.zero_add]
  | case2 n hlarge ih =>
    have hn : n / 10 * 10 + n % 10 = n := by omega
    rw [digitsOf, if_neg hlarge, significand_concat (ih (by omega)) (by omega), hn]

/-- The whole numbers that are read as such: those of 64 bits, with a sign or without. -/
def IsWord (n : Int) : Prop := -9223372036854775808 ≤ n ∧ n < 18446744073709551616

/-- **A whole number of at most 64 bits is read as itself.** -/
theorem readNumber_whole {n : Int} (h : IsWord n) :
    readNumber (bytesOf (JsonNumber.whole n).chars) = .ok (.whole n) := by
  have hlimit : wordLimit = 18446744073709551616 := rfl
  obtain ⟨hmin, hmax⟩ := h
  have hnumeral := @numeral_signed .unfinished (decide (n < 0)) n.natAbs [] nofun
  rw [List.append_nil, ← signedText_eq] at hnumeral
  rw [JsonNumber.chars, readNumber, hnumeral]
  simp only [fractionPart, exponentPart, bind, Except.bind, pure, Except.pure, Numeral.value]
  rw [significand_digitsOf (by omega)]
  by_cases hneg : n < 0
  · have habs : n.natAbs ≠ 0 ∧ n.natAbs ≤ 9223372036854775808 ∧ -(n.natAbs : Int) = n := by omega
    generalize n.natAbs = size at habs ⊢
    simp [hneg, habs]
  · have habs : (n.natAbs : Int) = n := by omega
    generalize n.natAbs = size at habs ⊢
    simp [hneg, habs]

end LightningLottery.Json
