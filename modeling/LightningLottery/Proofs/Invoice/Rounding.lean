/-
  What an accepted payment request asks for, in millisatoshis.

  The bounds of an amount are whole satoshis, and a request is held against them after rounding.

  * `IsWithin`: an amount in millisatoshis that rounds to a positive one within the bounds.
  * `satoshisOf_eq_iff`: the amounts that round to so many satoshis.
  * `DecodedInvoice.exists_acceptable_iff`: the rule for accepting a request, in millisatoshis.
  * `amount_bounds_rounded`: a request is accepted exactly if it is of the network, still open, and
    its amount is within the bounds; an amount of whole satoshis then keeps to them exactly.
-/
import LightningLottery.Proofs.Invoice.Acceptance
import LightningLottery.Proofs.Session.Naming

namespace LightningLottery

/-! ## Amounts that round to the bounds -/

/-- An amount in millisatoshis is within bounds in satoshis: it rounds to a positive one, to the
    target if one is given, and to the maximum at most if one is given. A half rounds up, so each
    window starts at a half satoshi and ends before the next one. -/
structure IsWithin (msat : Nat) (target max : Option UInt64) : Prop where
  positive : 500 ≤ msat
  onTarget : ∀ t, target = some t → 1000 * t.toNat ≤ msat + 500 ∧ msat < 1000 * t.toNat + 500
  bounded : ∀ m, max = some m → msat < 1000 * m.toNat + 500

theorem satoshisOf_eq_iff {msat : UInt64} {sat : Nat} :
    satoshisOf msat = sat ↔ 1000 * sat ≤ msat.toNat + 500 ∧ msat.toNat < 1000 * sat + 500 := by
  unfold satoshisOf
  omega

theorem satoshisOf_le_iff {msat : UInt64} {sat : Nat} :
    satoshisOf msat ≤ sat ↔ msat.toNat < 1000 * sat + 500 := by
  unfold satoshisOf
  omega

theorem satoshisOf_pos_iff {msat : UInt64} : 0 < satoshisOf msat ↔ 500 ≤ msat.toNat := by
  unfold satoshisOf
  omega

theorem toNat_ofNat_satoshisOf (msat : UInt64) :
    (UInt64.ofNat (satoshisOf msat)).toNat = satoshisOf msat := by
  have hlt := msat.toNat_lt
  refine UInt64.toNat_ofNat_of_lt ?_
  unfold satoshisOf UInt64.size
  omega

variable {target max : Option UInt64}

theorem IsWithin.of_whole {msat : Nat} (h : IsWithin msat target max) (hwhole : 1000 ∣ msat) :
    (∀ t, target = some t → msat = 1000 * t.toNat) ∧
      ∀ m, max = some m → msat ≤ 1000 * m.toNat := by
  obtain ⟨sat, rfl⟩ := hwhole
  refine ⟨fun t ht => ?_, fun m hm => ?_⟩
  · have hwindow := h.onTarget t ht
    omega
  · have hlt := h.bounded m hm
    omega

/-! ## The rule in millisatoshis -/

namespace DecodedInvoice

/-- **The rule `Acceptable`, in millisatoshis.** -/
theorem exists_acceptable_iff {d : DecodedInvoice} {networkPrefix : String} {now : UInt64} :
    (∃ sat, d.Acceptable networkPrefix target max now sat) ↔
      eqIgnoringCase d.networkPrefix networkPrefix = true ∧ now.toNat < d.deadline ∧
        ∃ msat, d.amountMsat = some msat ∧ IsWithin msat.toNat target max := by
  constructor
  · rintro ⟨sat, hnetwork, ⟨⟨msat, hmsat, hsat⟩, hpositive, htarget⟩, hbounded, hopen⟩
    refine ⟨hnetwork, hopen, msat, hmsat, ?_, fun t ht => ?_, fun m hm => ?_⟩
    · exact satoshisOf_pos_iff.1 (hsat ▸ hpositive)
    · exact satoshisOf_eq_iff.1 (htarget t ht ▸ hsat.symm)
    · exact satoshisOf_le_iff.1 (hsat ▸ hbounded m hm)
  · rintro ⟨hnetwork, hopen, msat, hmsat, hwithin⟩
    have hsat := toNat_ofNat_satoshisOf msat
    refine ⟨UInt64.ofNat (satoshisOf msat), hnetwork, ⟨⟨msat, hmsat, hsat⟩, ?_, fun t ht => ?_⟩,
      fun m hm => ?_, hopen⟩
    · rw [hsat]
      exact satoshisOf_pos_iff.2 hwithin.positive
    · rw [← UInt64.toNat_inj, hsat]
      exact satoshisOf_eq_iff.2 (hwithin.onTarget t ht)
    · rw [hsat]
      exact satoshisOf_le_iff.2 (hwithin.bounded m hm)

end DecodedInvoice

/-- **The bounds of `validateInvoice` hold of the amount rounded to the nearest satoshi**
    (`IsWithin`): less than half a satoshi off the target, or half of one below it, and less than
    half a satoshi above the maximum. An amount of whole satoshis is exactly on the target and at
    most the maximum. -/
theorem amount_bounds_rounded (request networkPrefix : String) (target max : Option UInt64)
    (now : UInt64) :
    ((∃ invoice, validateInvoice request networkPrefix target max now = .ok invoice) ↔
      ∃ d msat, DecodedInvoice.decode (trim request) = .ok d ∧ d.amountMsat = some msat ∧
        eqIgnoringCase d.networkPrefix networkPrefix = true ∧ now.toNat < d.deadline ∧
        IsWithin msat.toNat target max) ∧
    ∀ invoice d msat, validateInvoice request networkPrefix target max now = .ok invoice →
      DecodedInvoice.decode (trim request) = .ok d → d.amountMsat = some msat →
      IsWithin msat.toNat target max ∧
      (1000 ∣ msat.toNat → (∀ t, target = some t → msat.toNat = 1000 * t.toNat) ∧
        ∀ m, max = some m → msat.toNat ≤ 1000 * m.toNat) := by
  have haccepted {invoice : Invoice}
      (h : validateInvoice request networkPrefix target max now = .ok invoice) :
      ∃ d msat, DecodedInvoice.decode (trim request) = .ok d ∧ d.amountMsat = some msat ∧
        eqIgnoringCase d.networkPrefix networkPrefix = true ∧ now.toNat < d.deadline ∧
        IsWithin msat.toNat target max := by
    obtain ⟨d, hd, ha, -⟩ := exists_acceptable h
    obtain ⟨hnetwork, hopen, msat, hmsat, hwithin⟩ :=
      DecodedInvoice.exists_acceptable_iff.1 ⟨_, ha⟩
    exact ⟨d, msat, hd, hmsat, hnetwork, hopen, hwithin⟩
  refine ⟨⟨fun ⟨_, h⟩ => haccepted h, ?_⟩, fun invoice d msat h hd hmsat => ?_⟩
  · rintro ⟨d, msat, hd, hmsat, hnetwork, hopen, hwithin⟩
    obtain ⟨sat, ha⟩ :=
      DecodedInvoice.exists_acceptable_iff.2 ⟨hnetwork, hopen, msat, hmsat, hwithin⟩
    exact ⟨_, validateInvoice_eq_ok hd ha⟩
  · obtain ⟨d', msat', hd', hmsat', -, -, hwithin⟩ := haccepted h
    cases hd.symm.trans hd'
    cases hmsat.symm.trans hmsat'
    exact ⟨hwithin, hwithin.of_whole⟩

/-! ## A request over a satoshi and a half, but for a millisatoshi -/

/-- The human-readable part of a payment request over 1499 millisatoshis. -/
def unevenHrp : List Char := ['l', 'n', 'b', 'c', '1', '4', '9', '9', '0', 'p']

/-- A request over 1499 millisatoshis, which is else like the note. -/
def unevenNote : String :=
  Bech32.written unevenHrp (WithdrawalCourse.noteWords ++
    Bech32.checksum unevenHrp WithdrawalCourse.noteWords)

theorem decode_unevenNote : ∃ d, DecodedInvoice.decode (trim unevenNote) = .ok d ∧
    d.amountMsat = some 1499 ∧ d.networkPrefix = "lnbc" ∧ d.deadline = 3600 := by
  have hfacts : ((SignedInvoice.ofWords (String.ofList unevenHrp)
      WithdrawalCourse.noteWords).toOption.map fun i =>
        let d := DecodedInvoice.ofSigned i
        (i.check.toOption, d.amountMsat, d.networkPrefix, d.deadline)) =
          some (some (), some 1499, "lnbc", 3600) := by
    decide +kernel
  obtain ⟨i, hi, hfacts⟩ := Option.map_eq_some_iff.1 hfacts
  simp only [Prod.mk.injEq] at hfacts
  obtain ⟨hcheck, hamount, hnetwork, hdeadline⟩ := hfacts
  have hhrp : Bech32.IsHrp (String.ofList unevenHrp) :=
    Bech32.isHrp_ofList_iff.2
      ⟨by decide, by decide, by simp [unevenHrp], Or.inl (by simp [unevenHrp])⟩
  refine ⟨.ofSigned i, DecodedInvoice.decode_eq_ok ?_ (toOption_eq_some_iff.1 hcheck), hamount,
    hnetwork, hdeadline⟩
  rw [trim_trim, unevenNote, Bech32.trim_written (by decide), SignedInvoice.parse,
    Bech32.decode_written hhrp (by decide)]
  exact toOption_eq_some_iff.1 hi

/-- A request over 1499 millisatoshis is accepted for the target of one satoshi, and for a maximum
    of one. -/
theorem unevenNote_beyond_bounds : ∃ invoice d msat,
    validateInvoice unevenNote "lnbc" (some 1) (some 1) 0 = .ok invoice ∧
      DecodedInvoice.decode (trim unevenNote) = .ok d ∧ d.amountMsat = some msat ∧
      msat.toNat ≠ 1000 * (1 : UInt64).toNat ∧ 1000 * (1 : UInt64).toNat < msat.toNat := by
  obtain ⟨d, hd, hamount, hnetwork, hdeadline⟩ := decode_unevenNote
  have hacceptable : d.Acceptable "lnbc" (some 1) (some 1) 0 1 := by
    refine ⟨?_, ⟨⟨1499, hamount, rfl⟩, by decide, ?_⟩, ?_, ?_⟩
    · rw [hnetwork]
      exact beq_self_eq_true _
    · rintro t ⟨⟩
      rfl
    · rintro m ⟨⟩
      exact Nat.le_refl _
    · rw [hdeadline]
      decide
  exact ⟨_, d, 1499, validateInvoice_eq_ok hd hacceptable, hd, hamount, by decide, by decide⟩

end LightningLottery
