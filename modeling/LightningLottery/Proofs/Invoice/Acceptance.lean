/-
  Which payment requests are accepted.

  * `DecodedInvoice.Acceptable`: the rule, in unbounded numbers.
  * `toNat_rounded`: what rounding makes of any amount.
  * `Refused`: the first check that fails, and what is said then.
  * `acceptable_or_refused`: one of the two is the case.
  * `validateInvoice_iff`: validation accepts by the rule and refuses by the first check that fails.
-/
import LightningLottery.Proofs.Invoice.Network
import LightningLottery.Proofs.Word64

namespace LightningLottery

/-! ## The rule -/

/-- An amount in satoshis, to the nearest one, a half rounding up. -/
def satoshisOf (msat : UInt64) : Nat := (msat.toNat + 500) / 1000

/-- **Rounding adds half a satoshi**, saturating at the greatest word. -/
theorem toNat_rounded (msat : UInt64) :
    (saturatingAdd msat 500 / 1000).toNat = min (msat.toNat + 500) (wordLimit - 1) / 1000 := by
  rw [UInt64.toNat_div, toNat_saturatingAdd]
  rfl

namespace DecodedInvoice

/-- A request asks for so many satoshis, some at least, and for the target if one is given. -/
structure Asks (d : DecodedInvoice) (target : Option UInt64) (sat : UInt64) : Prop where
  amount : ∃ msat, d.amountMsat = some msat ∧ sat.toNat = satoshisOf msat
  positive : 0 < sat.toNat
  onTarget : ∀ t, target = some t → sat = t

/-- When a request stops being payable, at the greatest word at the latest. -/
def deadline (d : DecodedInvoice) : Nat := min (d.timestamp.toNat + d.expiry.toNat) (wordLimit - 1)

/-- A request of the network asks for so many satoshis, the maximum at most, and is still open. -/
structure Acceptable (d : DecodedInvoice) (networkPrefix : String) (target max : Option UInt64)
    (now sat : UInt64) : Prop where
  network : eqIgnoringCase d.networkPrefix networkPrefix = true
  asks : d.Asks target sat
  bounded : ∀ m, max = some m → sat.toNat ≤ m.toNat
  unexpired : now.toNat < d.deadline

theorem isExpiredAt_iff {d : DecodedInvoice} {now : UInt64} :
    d.isExpiredAt now = true ↔ d.deadline ≤ now.toNat := by
  rw [isExpiredAt, decide_eq_true_iff, UInt64.le_iff_toNat_le, expiresAt, toNat_saturatingAdd,
    deadline]

/-- **The amount of a request is rounded as in unbounded numbers.** -/
theorem amountSat_eq_some_iff {request : String} {d : DecodedInvoice} (h : decode request = .ok d)
    {sat : UInt64} :
    d.amountSat = some sat ↔ ∃ msat, d.amountMsat = some msat ∧ sat.toNat = satoshisOf msat := by
  unfold amountSat
  rw [Option.map_eq_some_iff]
  refine exists_congr fun msat => and_congr_right fun hm => ?_
  have hle := amountMsat_le h hm
  have hround : (saturatingAdd msat 500 / 1000).toNat = satoshisOf msat := by
    rw [toNat_rounded, satoshisOf, Nat.min_eq_left (by unfold wordLimit at *; omega)]
  rw [← hround]
  exact eq_comm.trans UInt64.toNat_inj.symm

end DecodedInvoice

/-- The start of a text is that of the network, letter case aside. -/
def StartsAs (request networkPrefix : String) : Prop :=
  startsWith (asciiLower (trim request)) (asciiLower networkPrefix) = true

/-- The first check that a request fails, and what is said then. The checks after that of the
    network pass over the start of the text: a request of the network has it. -/
inductive Refused (request networkPrefix : String) (target max : Option UInt64) (now : UInt64) :
    Error → Prop
  | text (h : ¬ StartsAs request networkPrefix) :
    Refused request networkPrefix target max now (.validation (.invalidNetwork networkPrefix))
  | decoding {e : Error} (ht : StartsAs request networkPrefix)
    (h : DecodedInvoice.decode (trim request) = .error e) :
    Refused request networkPrefix target max now e
  | network {d : DecodedInvoice} (ht : StartsAs request networkPrefix)
    (hd : DecodedInvoice.decode (trim request) = .ok d)
    (h : ¬ eqIgnoringCase d.networkPrefix networkPrefix = true) :
    Refused request networkPrefix target max now (.validation (.invalidNetwork networkPrefix))
  | amount {d : DecodedInvoice} (hd : DecodedInvoice.decode (trim request) = .ok d)
    (hn : eqIgnoringCase d.networkPrefix networkPrefix = true) (h : ∀ sat, ¬ d.Asks target sat) :
    Refused request networkPrefix target max now (.validation .invalidAmount)
  | maximum {d : DecodedInvoice} {sat m : UInt64}
    (hd : DecodedInvoice.decode (trim request) = .ok d)
    (hn : eqIgnoringCase d.networkPrefix networkPrefix = true) (ha : d.Asks target sat)
    (hm : max = some m) (h : m.toNat < sat.toNat) :
    Refused request networkPrefix target max now (.validation .amountTooHigh)
  | expiry {d : DecodedInvoice} {sat : UInt64}
    (hd : DecodedInvoice.decode (trim request) = .ok d)
    (hn : eqIgnoringCase d.networkPrefix networkPrefix = true) (ha : d.Asks target sat)
    (hm : ∀ m, max = some m → sat.toNat ≤ m.toNat) (h : d.deadline ≤ now.toNat) :
    Refused request networkPrefix target max now (.validation .invoiceExpired)

variable {request networkPrefix : String} {target max : Option UInt64} {now : UInt64}

theorem acceptable_or_refused (request networkPrefix : String) (target max : Option UInt64)
    (now : UInt64) :
    (∃ d sat, DecodedInvoice.decode (trim request) = .ok d ∧
        d.Acceptable networkPrefix target max now sat) ∨
      ∃ e, Refused request networkPrefix target max now e := by
  by_cases ht : StartsAs request networkPrefix
  swap
  · exact Or.inr ⟨_, .text ht⟩
  rcases hd : DecodedInvoice.decode (trim request) with e | d
  · exact Or.inr ⟨e, .decoding ht hd⟩
  by_cases hn : eqIgnoringCase d.networkPrefix networkPrefix = true
  swap
  · exact Or.inr ⟨_, .network ht hd hn⟩
  by_cases ha : ∃ sat, d.Asks target sat
  swap
  · exact Or.inr ⟨_, .amount hd hn fun sat hs => ha ⟨sat, hs⟩⟩
  obtain ⟨sat, ha⟩ := ha
  by_cases hm : ∃ m, max = some m ∧ m.toNat < sat.toNat
  · obtain ⟨m, hm, hlt⟩ := hm
    exact Or.inr ⟨_, .maximum hd hn ha hm hlt⟩
  have hbounded : ∀ m, max = some m → sat.toNat ≤ m.toNat := fun m hmax =>
    Nat.le_of_not_lt fun hlt => hm ⟨m, hmax, hlt⟩
  rcases Nat.lt_or_ge now.toNat d.deadline with hopen | hover
  · exact Or.inl ⟨d, sat, rfl, hn, ha, hbounded, hopen⟩
  · exact Or.inr ⟨_, .expiry hd hn ha hbounded hover⟩

/-! ## Validation -/

/-- **A request of the network starts with the prefix of the network**, so that the check of the
    text is implied by the check of the network. -/
theorem startsAs_of_network {d : DecodedInvoice}
    (hd : DecodedInvoice.decode (trim request) = .ok d)
    (hn : eqIgnoringCase d.networkPrefix networkPrefix = true) :
    StartsAs request networkPrefix := by
  rw [StartsAs, startsWith_iff, ← eqIgnoringCase_iff.1 hn,
    DecodedInvoice.asciiLower_networkPrefix hd, ← trim_trim]
  exact DecodedInvoice.networkPrefix_isStart hd

theorem asks_iff {d : DecodedInvoice} (hd : DecodedInvoice.decode (trim request) = .ok d)
    {sat : UInt64} :
    d.Asks target sat ↔
      d.amountSat = some sat ∧ (decide (sat = 0) || target.any (· != sat)) = false := by
  have hpositive : 0 < sat.toNat ↔ decide (sat = 0) = false := by
    rw [decide_eq_false_iff_not, ← UInt64.toNat_inj, Nat.pos_iff_ne_zero]
    rfl
  have htarget : (∀ t, target = some t → sat = t) ↔ target.any (· != sat) = false := by
    cases target with
    | none => exact ⟨fun _ => rfl, fun _ => nofun⟩
    | some t =>
      rw [Option.any_some, bne_eq_false_iff_eq]
      exact ⟨fun h => (h t rfl).symm, fun h t' ht => h.symm.trans (Option.some.inj ht)⟩
  rw [DecodedInvoice.amountSat_eq_some_iff hd, Bool.or_eq_false_iff, ← hpositive, ← htarget]
  exact ⟨fun h => ⟨h.amount, h.positive, h.onTarget⟩, fun h => ⟨h.1, h.2.1, h.2.2⟩⟩

theorem any_lt_iff {sat : UInt64} :
    max.any (· < sat) = true ↔ ∃ m, max = some m ∧ m.toNat < sat.toNat := by
  cases max with
  | none => exact ⟨nofun, nofun⟩
  | some m =>
    rw [Option.any_some, decide_eq_true_iff, UInt64.lt_iff_toNat_lt]
    exact ⟨fun h => ⟨m, rfl, h⟩, fun ⟨_, hm, h⟩ => Option.some.inj hm ▸ h⟩

theorem not_any_lt {sat : UInt64} (h : ∀ m, max = some m → sat.toNat ≤ m.toNat) :
    ¬ max.any (· < sat) = true := by
  rw [any_lt_iff]
  rintro ⟨m, hm, hlt⟩
  exact Nat.not_le_of_lt hlt (h m hm)

theorem validateInvoice_of_network {d : DecodedInvoice}
    (hd : DecodedInvoice.decode (trim request) = .ok d)
    (hn : eqIgnoringCase d.networkPrefix networkPrefix = true) :
    validateInvoice request networkPrefix target max now =
      match d.amountSat with
      | none => .error (.validation .invalidAmount)
      | some sat =>
        if sat = 0 || target.any (· != sat) then .error (.validation .invalidAmount)
        else if max.any (· < sat) then .error (.validation .amountTooHigh)
        else if d.isExpiredAt now then .error (.validation .invoiceExpired)
        else .ok ⟨d.paymentHash, sat⟩ := by
  have ht : startsWith (asciiLower (trim request)) (asciiLower networkPrefix) = true :=
    startsAs_of_network hd hn
  cases hsat : d.amountSat with
  | none =>
    simp only [validateInvoice, ht, hd, hn, hsat, Bool.not_true, Bool.false_eq_true, if_false]
  | some sat =>
    simp only [validateInvoice, ht, hd, hn, hsat, Bool.not_true, Bool.false_eq_true, if_false]

theorem validateInvoice_of_asks {d : DecodedInvoice} {sat : UInt64}
    (hd : DecodedInvoice.decode (trim request) = .ok d)
    (hn : eqIgnoringCase d.networkPrefix networkPrefix = true) (ha : d.Asks target sat) :
    validateInvoice request networkPrefix target max now =
      if max.any (· < sat) then .error (.validation .amountTooHigh)
      else if d.isExpiredAt now then .error (.validation .invoiceExpired)
      else .ok ⟨d.paymentHash, sat⟩ := by
  obtain ⟨hsat, hfit⟩ := (asks_iff hd).1 ha
  rw [validateInvoice_of_network hd hn, hsat]
  simp only [hfit, Bool.false_eq_true, if_false]

theorem validateInvoice_eq_ok {d : DecodedInvoice} {sat : UInt64}
    (hd : DecodedInvoice.decode (trim request) = .ok d)
    (h : d.Acceptable networkPrefix target max now sat) :
    validateInvoice request networkPrefix target max now = .ok ⟨d.paymentHash, sat⟩ := by
  have hopen : ¬ d.isExpiredAt now = true := by
    rw [DecodedInvoice.isExpiredAt_iff]
    exact Nat.not_le_of_lt h.unexpired
  rw [validateInvoice_of_asks hd h.network h.asks, if_neg (not_any_lt h.bounded), if_neg hopen]

theorem validateInvoice_eq_error {e : Error} (h : Refused request networkPrefix target max now e) :
    validateInvoice request networkPrefix target max now = .error e := by
  cases h with
  | text h =>
    have hn : startsWith (asciiLower (trim request)) (asciiLower networkPrefix) = false :=
      Bool.eq_false_iff.2 h
    simp only [validateInvoice, hn, Bool.not_false, if_true]
  | decoding ht h =>
    have ht : startsWith (asciiLower (trim request)) (asciiLower networkPrefix) = true := ht
    simp only [validateInvoice, ht, h, Bool.not_true, Bool.false_eq_true, if_false]
  | network ht hd h =>
    have ht : startsWith (asciiLower (trim request)) (asciiLower networkPrefix) = true := ht
    simp only [validateInvoice, ht, hd, Bool.eq_false_iff.2 h, Bool.not_true, Bool.not_false,
      Bool.false_eq_true, if_false, if_true]
  | @amount d hd hn h =>
    rw [validateInvoice_of_network hd hn]
    cases hsat : d.amountSat with
    | none => rfl
    | some sat =>
      have hunfit : (decide (sat = 0) || target.any (· != sat)) = true := by
        by_contra hf
        exact h sat ((asks_iff hd).2 ⟨hsat, Bool.eq_false_iff.2 hf⟩)
      simp only [hunfit, if_true]
  | maximum hd hn ha hm h =>
    rw [validateInvoice_of_asks hd hn ha, if_pos (any_lt_iff.2 ⟨_, hm, h⟩)]
  | expiry hd hn ha hm h =>
    rw [validateInvoice_of_asks hd hn ha, if_neg (not_any_lt hm),
      if_pos (DecodedInvoice.isExpiredAt_iff.2 h)]

theorem exists_acceptable {invoice : Invoice}
    (h : validateInvoice request networkPrefix target max now = .ok invoice) :
    ∃ d, DecodedInvoice.decode (trim request) = .ok d ∧
      d.Acceptable networkPrefix target max now invoice.amountSat ∧
      invoice.paymentHash = d.paymentHash := by
  rcases acceptable_or_refused request networkPrefix target max now with ⟨d, sat, hd, ha⟩ | ⟨e, he⟩
  · rw [validateInvoice_eq_ok hd ha] at h
    cases h
    exact ⟨d, hd, ha, rfl⟩
  · rw [validateInvoice_eq_error he] at h
    cases h

/-- **`validateInvoice` accepts exactly the `Acceptable` requests**, and refuses the others by the
    first check that fails (`Refused`). A request of the network has the start that is looked for in
    the text, and no request is accepted for two networks. -/
theorem validateInvoice_iff (request networkPrefix : String) (target max : Option UInt64)
    (now : UInt64) :
    (∀ invoice, validateInvoice request networkPrefix target max now = .ok invoice ↔
      ∃ d, DecodedInvoice.decode (trim request) = .ok d ∧
        d.Acceptable networkPrefix target max now invoice.amountSat ∧
        invoice.paymentHash = d.paymentHash) ∧
    (∀ e, validateInvoice request networkPrefix target max now = .error e ↔
      Refused request networkPrefix target max now e) ∧
    (∀ d, DecodedInvoice.decode (trim request) = .ok d →
      eqIgnoringCase d.networkPrefix networkPrefix = true → StartsAs request networkPrefix) ∧
    ∀ other target' max' now' invoice invoice',
      validateInvoice request networkPrefix target max now = .ok invoice →
      validateInvoice request other target' max' now' = .ok invoice' →
      eqIgnoringCase networkPrefix other = true := by
  refine ⟨fun invoice => ⟨exists_acceptable, ?_⟩, fun e => ⟨fun h => ?_, validateInvoice_eq_error⟩,
    fun d => startsAs_of_network, ?_⟩
  · rintro ⟨d, hd, ha, hhash⟩
    rw [validateInvoice_eq_ok hd ha, ← hhash]
  · rcases acceptable_or_refused request networkPrefix target max now with
      ⟨d, sat, hd, ha⟩ | ⟨e', he⟩
    · rw [validateInvoice_eq_ok hd ha] at h
      cases h
    · rw [validateInvoice_eq_error he] at h
      cases h
      exact he
  · intro other target' max' now' invoice invoice' h h'
    obtain ⟨d, hd, ha, -⟩ := exists_acceptable h
    obtain ⟨d', hd', ha', -⟩ := exists_acceptable h'
    rw [hd] at hd'
    cases hd'
    rw [eqIgnoringCase_iff, ← eqIgnoringCase_iff.1 ha.network, eqIgnoringCase_iff.1 ha'.network]

end LightningLottery
