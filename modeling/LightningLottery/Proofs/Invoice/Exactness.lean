/-
  The arithmetic of payment requests up to the greatest word.

  Sums stop at the greatest word, so that amounts and deadlines near it are not those of unbounded
  numbers.

  * `toNat_rounded_near`: rounding is exact below a limit, and misses one satoshi from there on.
  * `DecodedInvoice.isExpiredAt_iff_or`: a deadline beyond the greatest word is taken to be there.
  * `DecodedInvoice.amount_and_deadline`: where both are as in unbounded numbers.
-/
import LightningLottery.Proofs.Invoice.Acceptance

namespace LightningLottery

/-! ## Amounts -/

/-- The first amount in millisatoshis that rounds up past the greatest word. -/
def roundingLimit : Nat := 18446744073709551500

/-- Below the limit rounding is exact, and from there on one satoshi is missing. -/
theorem toNat_rounded_near (msat : UInt64) :
    let sat := (saturatingAdd msat 500 / 1000).toNat
    (msat.toNat < roundingLimit → sat = satoshisOf msat) ∧
      (roundingLimit ≤ msat.toNat → sat + 1 = satoshisOf msat) := by
  have hlt : msat.toNat < wordLimit := msat.toNat_lt
  simp only [toNat_rounded, satoshisOf, roundingLimit]
  unfold wordLimit at *
  omega

namespace DecodedInvoice

variable {d : DecodedInvoice}

theorem amountMsat_lt_roundingLimit {request : String} (h : decode request = .ok d) {msat : UInt64}
    (hmsat : d.amountMsat = some msat) : msat.toNat < roundingLimit := by
  have hle := amountMsat_le h hmsat
  unfold wordLimit at hle
  unfold roundingLimit
  omega

/-! ## Deadlines -/

/-- **A deadline beyond the greatest word saturates there**, so that nothing is open at that time.
    -/
theorem isExpiredAt_iff_or {now : UInt64} :
    d.isExpiredAt now = true ↔
      d.timestamp.toNat + d.expiry.toNat ≤ now.toNat ∨ now.toNat = wordLimit - 1 := by
  have hlt : now.toNat < wordLimit := now.toNat_lt
  rw [isExpiredAt_iff, deadline]
  unfold wordLimit at *
  omega

/-- **`amountSat` and `isExpiredAt` in unbounded numbers.** Below `roundingLimit`, which no decoded
    amount reaches, the amount is rounded exactly; from there on it is one satoshi less, as the sum
    saturates. A request has expired when time stamp and expiry together have passed, and at the
    greatest time in any case. -/
theorem amount_and_deadline (d : DecodedInvoice) :
    (d.amountMsat = none → d.amountSat = none) ∧
    (∀ msat, d.amountMsat = some msat → ∃ sat, d.amountSat = some sat ∧
      (msat.toNat < roundingLimit → sat.toNat = satoshisOf msat) ∧
      (roundingLimit ≤ msat.toNat → sat.toNat + 1 = satoshisOf msat)) ∧
    (∀ request msat, decode request = .ok d → d.amountMsat = some msat →
      msat.toNat < roundingLimit) ∧
    ∀ now, d.isExpiredAt now = true ↔
      d.timestamp.toNat + d.expiry.toNat ≤ now.toNat ∨ now.toNat = wordLimit - 1 := by
  refine ⟨fun hnone => ?_, fun msat hmsat => ?_, fun request msat hread hmsat => ?_, fun now => ?_⟩
  · rw [amountSat, hnone, Option.map_none]
  · refine ⟨_, ?_, toNat_rounded_near msat⟩
    rw [amountSat, hmsat, Option.map_some]
  · exact amountMsat_lt_roundingLimit hread hmsat
  · exact isExpiredAt_iff_or

/-- A request for the greatest amount that stays open the longest. -/
def greatest : DecodedInvoice where
  networkPrefix := "lnbc"
  amountMsat := some 18446744073709551615
  timestamp := 1
  expiry := 18446744073709551615
  paymentHash := ""
  paymentSecret := ""
  payee := none
  minFinalCltvExpiryDelta := defaultMinFinalCltvExpiryDelta

/-- The greatest amount is one satoshi short, and its request has expired at the greatest time
    although its deadline is later. -/
theorem greatest_not_exact :
    (∃ msat sat, greatest.amountMsat = some msat ∧ greatest.amountSat = some sat ∧
      sat.toNat ≠ (msat.toNat + 500) / 1000) ∧
    ∃ now : UInt64, greatest.isExpiredAt now = true ∧
      ¬ greatest.timestamp.toNat + greatest.expiry.toNat ≤ now.toNat := by
  refine ⟨⟨18446744073709551615, 18446744073709551, rfl, by decide, by decide⟩,
    18446744073709551615, by decide, by decide⟩

end DecodedInvoice
end LightningLottery
