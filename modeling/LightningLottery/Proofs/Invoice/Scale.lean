/-
  The amount of a payment request, as it is written and as it is read.

  * `decimalValue`: the number that digits denote.
  * `HumanPart.chars`: a human-readable part of a currency, digits, and perhaps a multiplier.
  * `HumanPart.parse_chars_of_ne_nil`: what is read of such a part, and when it is refused.
  * `HumanPart.exists_chars`: a part that is read is one of them.
  * `picoBitcoinOf`, `millisatoshisOf`: so many bitcoins, or fractions of one, in smaller units.
  * `HasHumanPart`: a request has such a human-readable part.
  * `DecodedInvoice.IsOfScale`: an amount is what digits and multiplier say.
  * `DecodedInvoice.amount_to_scale`: the amount of every request that is read is so; one that is not
    a whole number of millisatoshis, or too large with its multiplier, is refused.
-/
import LightningLottery.Proofs.Bech32.Reading
import LightningLottery.Proofs.Invoice.Rounding
import LightningLottery.Proofs.Text.Radix
import LightningLottery.Proofs.Text.Split

namespace LightningLottery

/-! ## Amounts as they are written -/

/-- The number that decimal digits denote, the last digit counting ones. -/
def decimalValue (digits : List Char) : Nat :=
  Nat.ofDigits 10 (digits.reverse.map fun c => c.toNat - '0'.toNat)

theorem foldl_digits_eq (digits : List Char) :
    digits.foldl (fun n c => n * 10 + (c.toNat - 48)) 0 = decimalValue digits := by
  rw [decimalValue, ← foldl_eq_ofDigits]
  rfl

/-- The letter of a fraction. -/
def Multiplier.letter : Multiplier → Char
  | .milli => 'm'
  | .micro => 'u'
  | .nano => 'n'
  | .pico => 'p'

theorem Multiplier.ofLetter?_eq_some_iff {c : Char} {m : Multiplier} :
    ofLetter? c = some m ↔ c = m.letter := by
  constructor
  · intro h
    unfold ofLetter? at h
    split at h <;> cases h <;> rfl
  · rintro rfl
    cases m <;> rfl

theorem Multiplier.isDigit_letter (m : Multiplier) : m.letter.isDigit = false := by
  cases m <;> rfl

theorem Currency.isDigit_of_mem_code (currency : Currency) :
    ∀ c ∈ currency.code.toList, (!c.isDigit) = true :=
  List.all_eq_true.1 (by cases currency <;> decide)

theorem Currency.ofCode?_code (currency : Currency) :
    ofCode? currency.code.toList = some currency := by
  cases currency <;> decide

/-- So many bitcoins, or fractions of one, in units of 10⁻¹² bitcoin. -/
def picoBitcoinOf (n : Nat) : Option Multiplier → Nat
  | none => n * 10 ^ 12
  | some .milli => n * 10 ^ 9
  | some .micro => n * 10 ^ 6
  | some .nano => n * 10 ^ 3
  | some .pico => n

/-- So many bitcoins, or fractions of one, in millisatoshis. -/
def millisatoshisOf (n : Nat) : Option Multiplier → Nat
  | none => n * 10 ^ 11
  | some .milli => n * 10 ^ 8
  | some .micro => n * 10 ^ 5
  | some .nano => n * 10 ^ 2
  | some .pico => n / 10

theorem picoBitcoinOf_div (n : Nat) (multiplier : Option Multiplier) :
    picoBitcoinOf n multiplier / 10 = millisatoshisOf n multiplier := by
  rcases multiplier with _ | _ | _ | _ | _ <;> simp only [picoBitcoinOf, millisatoshisOf] <;> omega

theorem picoBitcoinOf_some (n : Nat) (m : Multiplier) :
    picoBitcoinOf n (some m) = n * m.picoBitcoin := by
  cases m <;> simp [picoBitcoinOf, Multiplier.picoBitcoin]

namespace HumanPart

/-- The human-readable part of a currency, digits, and perhaps a multiplier. -/
def chars (currency : Currency) (digits : List Char) (multiplier : Option Multiplier) :
    List Char :=
  'l' :: 'n' :: (currency.code.toList ++ (digits ++ multiplier.toList.map Multiplier.letter))

theorem parseAmount_of_ne_nil {digits : List Char} (h : digits ≠ []) :
    parseAmount digits =
      if wordLimit ≤ decimalValue digits then .error .amountTooLarge
      else .ok (some (decimalValue digits)) := by
  have hempty : digits.isEmpty = false := List.isEmpty_eq_false_iff.2 h
  simp only [parseAmount, foldl_digits_eq, hempty, Bool.false_eq_true, if_false, ← Nat.not_lt,
    ite_not]

theorem parseMultiplier_eq_ok_iff {cs : List Char} {multiplier : Option Multiplier} :
    parseMultiplier cs = .ok multiplier ↔ cs = multiplier.toList.map Multiplier.letter := by
  constructor
  · intro h
    unfold parseMultiplier at h
    split at h
    · cases h; rfl
    · split at h
      · cases h
      next c rest _ m hm =>
      split at h
      · next hrest =>
        cases h
        rw [List.isEmpty_iff.1 hrest, Multiplier.ofLetter?_eq_some_iff.1 hm]
        rfl
      · cases h
  · rintro rfl
    rcases multiplier with _ | m
    · rfl
    · cases m <;> rfl

theorem parse_chars_nil (currency : Currency) (multiplier : Option Multiplier) :
    parse (chars currency [] multiplier) =
      if multiplier = none then .ok ⟨currency, none, none⟩ else .error .unknownCurrency := by
  rcases multiplier with _ | m
  · cases currency <;> decide
  · cases currency <;> cases m <;> decide

/-- **The part with digits is parsed as currency, digits and multiplier**, or refused. -/
theorem parse_chars_of_ne_nil (currency : Currency) {digits : List Char}
    (hdigits : ∀ c ∈ digits, c.isDigit = true) (hne : digits ≠ [])
    (multiplier : Option Multiplier) :
    parse (chars currency digits multiplier) =
      if wordLimit ≤ decimalValue digits then .error .amountTooLarge
      else if multiplier ≠ none ∧ wordLimit ≤ picoBitcoinOf (decimalValue digits) multiplier then
        .error .integerOverflow
      else .ok ⟨currency, some (decimalValue digits), multiplier⟩ := by
  -- the first digit ends the code, and the letter ends the digits
  have hstart : ∀ c ∈ (digits ++ multiplier.toList.map Multiplier.letter).head?,
      (!c.isDigit) = false := by
    rw [List.head?_append_of_ne_nil _ hne]
    intro c hc
    rw [hdigits c (List.mem_of_mem_head? hc), Bool.not_true]
  have hletter : ∀ c ∈ (multiplier.toList.map Multiplier.letter).head?, c.isDigit = false := by
    intro c hc
    obtain ⟨m, -, rfl⟩ := List.mem_map.1 (List.mem_of_mem_head? hc)
    exact m.isDigit_letter
  obtain ⟨htakeCode, hdropCode⟩ := span_append currency.isDigit_of_mem_code hstart
  obtain ⟨htakeDigits, hdropDigits⟩ := span_append hdigits hletter
  have hmultiplier := parseMultiplier_eq_ok_iff.2 (rfl : multiplier.toList.map Multiplier.letter = _)
  have hrest : (currency.code.toList ++
      (digits ++ multiplier.toList.map Multiplier.letter)).isEmpty = false := by
    simp [hne]
  simp only [chars, parse, hrest, htakeCode, hdropCode, htakeDigits, hdropDigits, hmultiplier,
    Currency.ofCode?_code, parseAmount_of_ne_nil hne, Bool.false_eq_true, if_false, bind,
    Except.bind]
  by_cases hlarge : wordLimit ≤ decimalValue digits
  · simp only [hlarge, if_true]
  cases multiplier with
  | none => simp only [hlarge, if_false, ne_eq, not_true_eq_false, false_and]
  | some m =>
    simp only [hlarge, if_false, ne_eq, reduceCtorEq, not_false_eq_true, true_and,
      picoBitcoinOf_some, ← Nat.not_lt, ite_not]

/-- **A parsed part consists of currency, digits and perhaps a multiplier.** -/
theorem exists_chars {hrp : List Char} {part : HumanPart} (h : parse hrp = .ok part) :
    ∃ currency digits multiplier, (∀ c ∈ digits, c.isDigit = true) ∧
      hrp = chars currency digits multiplier := by
  unfold parse at h
  split at h
  swap
  · cases h
  next rest =>
  rcases hempty : rest.isEmpty with _ | _
  swap
  · rw [hempty] at h; cases h
  simp only [hempty, Bool.false_eq_true, if_false] at h
  obtain ⟨multiplier, hmultiplier, h⟩ := bind_eq_ok_iff.1 h
  split at h
  · cases h
  next currency hcurrency =>
  refine ⟨currency, (rest.dropWhile fun c => !c.isDigit).takeWhile Char.isDigit, multiplier,
    fun c hc => List.mem_takeWhile_imp hc, ?_⟩
  rw [chars, ← parseMultiplier_eq_ok_iff.1 hmultiplier, List.takeWhile_append_dropWhile,
    ofCode?_eq_some hcurrency, List.takeWhile_append_dropWhile]

/-- The amount of a parsed part is that of its digits; with a multiplier it takes at most 64 bits.
    -/
theorem of_parse_chars {currency : Currency} {digits : List Char} {multiplier : Option Multiplier}
    {part : HumanPart} (hdigits : ∀ c ∈ digits, c.isDigit = true)
    (h : parse (chars currency digits multiplier) = .ok part) :
    part = ⟨currency, if digits = [] then none else some (decimalValue digits), multiplier⟩ ∧
      (multiplier ≠ none → digits ≠ [] ∧
        picoBitcoinOf (decimalValue digits) multiplier < wordLimit) := by
  by_cases hne : digits = []
  · subst hne
    rw [parse_chars_nil] at h
    split at h
    · next hnone =>
      cases h
      exact ⟨by rw [hnone, if_pos rfl], fun hsome => absurd hnone hsome⟩
    · cases h
  · rw [parse_chars_of_ne_nil currency hdigits hne] at h
    split_ifs at h with hlarge hover
    cases h
    exact ⟨by rw [if_neg hne], fun hsome => ⟨hne, Nat.lt_of_not_le fun hle => hover ⟨hsome, hle⟩⟩⟩

theorem picoBitcoin_mk (currency : Currency) (n : Nat) (multiplier : Option Multiplier) :
    (HumanPart.mk currency (some n) multiplier).picoBitcoin =
      if picoBitcoinOf n multiplier < wordLimit then some (picoBitcoinOf n multiplier)
      else none := by
  rcases multiplier with _ | m
  · rfl
  · rw [picoBitcoinOf_some]
    rfl

end HumanPart

/-! ## Amounts as they are read -/

/-- A request that passes the check asks for a whole number of millisatoshis. -/
theorem SignedInvoice.dvd_of_check {invoice : SignedInvoice} (h : invoice.check = .ok ())
    {pico : Nat} (hpico : invoice.human.picoBitcoin = some pico) : 10 ∣ pico := by
  obtain ⟨_, -, h⟩ := bind_eq_ok_iff.1 h
  obtain ⟨_, -, h⟩ := bind_eq_ok_iff.1 h
  obtain ⟨_, -, h⟩ := bind_eq_ok_iff.1 h
  simp only [hpico] at h
  split at h
  swap
  · cases h
  split at h
  swap
  · cases h
  split at h
  · next hwhole => exact Nat.dvd_of_mod_eq_zero hwhole
  · cases h

/-- The human-readable part of a request, which ends at the last separator, is of a currency, digits,
    and perhaps a multiplier, letter case aside. -/
structure HasHumanPart (request : String) (currency : Currency) (digits : List Char)
    (multiplier : Option Multiplier) : Prop where
  isDigit : ∀ c ∈ digits, c.isDigit = true
  text : ∃ data, (asciiLower (trim request)).toList =
    HumanPart.chars currency digits multiplier ++ Bech32.separator :: data ∧
      Bech32.separator ∉ data

namespace DecodedInvoice

/-- The amount of a request is what digits and multiplier say. -/
structure IsOfScale (d : DecodedInvoice) (digits : List Char) (multiplier : Option Multiplier) :
    Prop where
  /-- Only without digits, or without multiplier and too large, there is no amount. -/
  none_iff : d.amountMsat = none ↔
    digits = [] ∨ multiplier = none ∧ wordLimit ≤ picoBitcoinOf (decimalValue digits) none
  exact : ∀ msat, d.amountMsat = some msat →
    msat.toNat = millisatoshisOf (decimalValue digits) multiplier
  /-- What is read with a multiplier is not too large. -/
  fits : multiplier ≠ none → picoBitcoinOf (decimalValue digits) multiplier < wordLimit
  whole : multiplier = some .pico → 10 ∣ decimalValue digits
  /-- There is room for rounding. -/
  rounded : ∀ msat, d.amountMsat = some msat → msat.toNat + 500 < wordLimit ∧
    ∃ sat, d.amountSat = some sat ∧ sat.toNat = (msat.toNat + 500) / 1000

theorem exists_hrp {request : String} {invoice : SignedInvoice}
    (h : SignedInvoice.parse (trim request) = .ok invoice) :
    ∃ hrp data, (asciiLower (trim request)).toList = hrp ++ Bech32.separator :: data ∧
      Bech32.separator ∉ data ∧ HumanPart.parse hrp = .ok invoice.human := by
  obtain ⟨hrp, ws, hdecode, hhuman⟩ := SignedInvoice.exists_of_parse h
  obtain ⟨-, -, htext⟩ := Bech32.decode_eq_ok_iff.1 hdecode
  let written := ws ++ Bech32.checksum hrp.toList ws
  exact ⟨hrp.toList, written.map Bech32.charOf, by rw [htext, Bech32.toList_written],
    Bech32.separator_notMem written, hhuman⟩

theorem amountMsat_ofSigned {invoice : SignedInvoice} {currency : Currency} {n : Nat}
    {multiplier : Option Multiplier} (h : invoice.human = ⟨currency, some n, multiplier⟩) :
    (ofSigned invoice).amountMsat =
      if picoBitcoinOf n multiplier < wordLimit then
        some (UInt64.ofNat (millisatoshisOf n multiplier))
      else none := by
  rw [ofSigned, h, HumanPart.picoBitcoin_mk, ← picoBitcoinOf_div]
  split <;> rfl

theorem toNat_millisatoshisOf {n : Nat} {multiplier : Option Multiplier}
    (h : picoBitcoinOf n multiplier < wordLimit) :
    (UInt64.ofNat (millisatoshisOf n multiplier)).toNat = millisatoshisOf n multiplier := by
  rw [← picoBitcoinOf_div]
  refine UInt64.toNat_ofNat_of_lt ?_
  unfold wordLimit at h
  unfold UInt64.size
  omega

variable {request : String} {d : DecodedInvoice}

/-- The rounded amount of a request that is read; there is room for rounding. -/
theorem exists_amountSat (h : decode request = .ok d) {msat : UInt64}
    (hmsat : d.amountMsat = some msat) :
    msat.toNat + 500 < wordLimit ∧
      ∃ sat, d.amountSat = some sat ∧ sat.toNat = (msat.toNat + 500) / 1000 := by
  have hle := amountMsat_le h hmsat
  have hsat := toNat_ofNat_satoshisOf msat
  exact ⟨by unfold wordLimit at *; omega, _,
    (amountSat_eq_some_iff h).2 ⟨msat, hmsat, hsat⟩, hsat⟩

/-- **The human-readable part of a decoded request consists of currency, digits and perhaps a
    multiplier.** -/
theorem exists_hasHumanPart (h : decode request = .ok d) :
    ∃ currency digits multiplier, HasHumanPart request currency digits multiplier := by
  obtain ⟨invoice, hparse, -, -⟩ := exists_checked h
  obtain ⟨hrp, data, htext, hdata, hhuman⟩ := exists_hrp hparse
  obtain ⟨currency, digits, multiplier, hdigits, rfl⟩ := HumanPart.exists_chars hhuman
  exact ⟨currency, digits, multiplier, hdigits, data, htext, hdata⟩

theorem exists_signed {currency : Currency} {digits : List Char} {multiplier : Option Multiplier}
    (hpart : HasHumanPart request currency digits multiplier) (h : decode request = .ok d) :
    ∃ invoice, invoice.check = .ok () ∧ ofSigned invoice = d ∧
      HumanPart.parse (HumanPart.chars currency digits multiplier) = .ok invoice.human := by
  obtain ⟨invoice, hparse, hcheck, hsigned⟩ := exists_checked h
  obtain ⟨hrp, data, htext, hdata, hhuman⟩ := exists_hrp hparse
  obtain ⟨data', htext', hdata'⟩ := hpart.text
  -- both cut the text at its last separator
  have hcut := splitLast?_eq_some_iff.2 ⟨htext', hdata'⟩
  rw [splitLast?_eq_some_iff.2 ⟨htext, hdata⟩] at hcut
  cases hcut
  exact ⟨invoice, hcheck, hsigned, hhuman⟩

theorem IsOfScale.of_none (h : d.amountMsat = none) : d.IsOfScale [] none where
  none_iff := ⟨fun _ => .inl rfl, fun _ => h⟩
  exact msat hmsat := by rw [h] at hmsat; cases hmsat
  fits hsome := absurd rfl hsome
  whole := nofun
  rounded msat hmsat := by rw [h] at hmsat; cases hmsat

/-- An amount with digits and a multiplier that fits is missing only if the multiplier is. -/
theorem amountMsat_eq_none_iff {invoice : SignedInvoice} {currency : Currency} {n : Nat}
    {multiplier : Option Multiplier} (h : invoice.human = ⟨currency, some n, multiplier⟩)
    (hfits : multiplier ≠ none → picoBitcoinOf n multiplier < wordLimit) :
    (ofSigned invoice).amountMsat = none ↔ multiplier = none ∧ wordLimit ≤ picoBitcoinOf n none := by
  have hlarge : (ofSigned invoice).amountMsat = none ↔ wordLimit ≤ picoBitcoinOf n multiplier := by
    rw [amountMsat_ofSigned h, ← Nat.not_lt]
    split <;> simp [*]
  rw [hlarge]
  constructor
  · intro hle
    have hnone : multiplier = none := by
      by_contra hsome
      exact absurd hle (Nat.not_le_of_lt (hfits hsome))
    exact ⟨hnone, hnone ▸ hle⟩
  · rintro ⟨rfl, hle⟩
    exact hle

/-- **A decoded request has the currency and the amount of its human-readable part.** -/
theorem isOfScale {currency : Currency} {digits : List Char} {multiplier : Option Multiplier}
    (hpart : HasHumanPart request currency digits multiplier) (h : decode request = .ok d) :
    d.networkPrefix = "ln" ++ currency.code ∧ d.IsOfScale digits multiplier := by
  obtain ⟨invoice, hcheck, rfl, hparse⟩ := exists_signed hpart h
  obtain ⟨hhuman, hmultiplier⟩ := HumanPart.of_parse_chars hpart.isDigit hparse
  refine ⟨by rw [ofSigned, hhuman], ?_⟩
  by_cases hne : digits = []
  · subst hne
    have hnone : multiplier = none := by
      by_contra hsome
      exact (hmultiplier hsome).1 rfl
    subst hnone
    exact .of_none (by rw [ofSigned, hhuman]; rfl)
  · rw [if_neg hne] at hhuman
    have hfits := fun hsome => (hmultiplier hsome).2
    refine
      { none_iff := by rw [amountMsat_eq_none_iff hhuman hfits, or_iff_right hne]
        exact := fun msat hmsat => ?_
        fits := hfits
        whole := fun hpico => ?_
        rounded := fun msat hmsat => exists_amountSat h hmsat }
    · rw [amountMsat_ofSigned hhuman] at hmsat
      split at hmsat
      · next hlt =>
        cases hmsat
        exact toNat_millisatoshisOf hlt
      · cases hmsat
    · subst hpico
      have hpico := HumanPart.picoBitcoin_mk currency (decimalValue digits) (some .pico)
      rw [if_pos (hfits nofun), ← hhuman] at hpico
      exact SignedInvoice.dvd_of_check hcheck hpico

/-- **The amount of a decoded request is what its digits and its multiplier say** (`IsOfScale`), and
    there is none without digits. A fraction of a millisatoshi is refused, and so is an amount with
    a multiplier that takes more than 64 bits. -/
theorem amount_to_scale (request : String) :
    (∀ d, decode request = .ok d →
      ∃ currency digits multiplier, HasHumanPart request currency digits multiplier) ∧
    ∀ currency digits multiplier, HasHumanPart request currency digits multiplier →
      (∀ d, decode request = .ok d →
        d.networkPrefix = "ln" ++ currency.code ∧ d.IsOfScale digits multiplier) ∧
      (multiplier = some .pico ∧ ¬ 10 ∣ decimalValue digits ∨
        multiplier ≠ none ∧ wordLimit ≤ picoBitcoinOf (decimalValue digits) multiplier →
          ∃ e, decode request = .error e) := by
  refine ⟨fun d => exists_hasHumanPart, fun currency digits multiplier hpart =>
    ⟨fun d => isOfScale hpart, fun hbad => ?_⟩⟩
  rcases hread : decode request with e | d
  · exact ⟨e, rfl⟩
  · obtain ⟨-, hscale⟩ := isOfScale hpart hread
    rcases hbad with ⟨hpico, hfraction⟩ | ⟨hsome, hlarge⟩
    · exact absurd (hscale.whole hpico) hfraction
    · exact absurd hlarge (Nat.not_le_of_lt (hscale.fits hsome))

/-- 14990 pico-bitcoin are 1499 millisatoshis. -/
theorem unevenNote_to_scale : ∃ d, decode unevenNote = .ok d ∧
    d.IsOfScale ['1', '4', '9', '9', '0'] (some .pico) := by
  obtain ⟨d, hd, -⟩ := decode_unevenNote
  rw [decode_trim] at hd
  have hpart :
      HasHumanPart unevenNote .bitcoin ['1', '4', '9', '9', '0'] (some .pico) := by
    refine ⟨List.all_eq_true.1 (by decide), _, ?_, Bech32.separator_notMem
      (WithdrawalCourse.noteWords ++ Bech32.checksum unevenHrp WithdrawalCourse.noteWords)⟩
    rw [unevenNote, Bech32.trim_written (by decide), Bech32.asciiLower_written (by decide),
      Bech32.toList_written]
    rfl
  exact ⟨d, hd, (((amount_to_scale unevenNote).2 _ _ _ hpart).1 d hd).2⟩

end DecodedInvoice
end LightningLottery
