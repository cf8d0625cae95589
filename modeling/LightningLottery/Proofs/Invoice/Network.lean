/-
  The network and the amount of a payment request.

  * `HumanPart.code_isStart_of_parse`: the human-readable part starts with the code of its network.
  * `DecodedInvoice.networkPrefix_isStart`: so does the text of a request, letter case aside.
  * `DecodedInvoice.amountMsat_le`: its amount leaves room for rounding.
-/
import LightningLottery.Invoice.Basic
import LightningLottery.Proofs.Bech32.Decode
import LightningLottery.Proofs.Steps

namespace LightningLottery

namespace HumanPart

theorem ofCode?_eq_some {code : List Char} {currency : Currency}
    (h : Currency.ofCode? code = some currency) : currency.code.toList = code :=
  beq_iff_eq.1 (List.find?_some (p := fun c : Currency => c.code.toList == code) h)

/-- The code of a network has no digits: it is what stands before the first one. -/
theorem code_eq_takeWhile {hrp : List Char} {part : HumanPart} (h : parse hrp = .ok part) :
    ("ln" ++ part.currency.code).toList = hrp.takeWhile fun c => !c.isDigit := by
  unfold parse at h
  split at h
  · next rest =>
    rcases hempty : rest.isEmpty with _ | _
    swap
    · rw [hempty] at h; cases h
    simp only [hempty, Bool.false_eq_true, if_false] at h
    obtain ⟨multiplier, -, h⟩ := bind_eq_ok_iff.1 h
    split at h
    · cases h
    next currency hc =>
    obtain ⟨amount, -, h⟩ := bind_eq_ok_iff.1 h
    have hcurrency : part.currency = currency := by
      split at h
      · split at h <;> cases h
        rfl
      · cases h
        rfl
    rw [hcurrency, String.toList_append, ofCode?_eq_some hc]
    rfl
  · cases h

/-- **A human-readable part starts with the code of its network.** -/
theorem code_isStart_of_parse {hrp : List Char} {part : HumanPart} (h : parse hrp = .ok part) :
    ("ln" ++ part.currency.code).toList <+: hrp :=
  code_eq_takeWhile h ▸ List.takeWhile_prefix _

theorem picoBitcoin_lt {part : HumanPart} {n : Nat} (h : part.picoBitcoin = some n) :
    n < wordLimit := by
  unfold picoBitcoin at h
  split at h
  · cases h
  · have := Option.ite_none_right_eq_some.1 h
    obtain ⟨hlt, hn⟩ := this
    exact Option.some.inj hn ▸ hlt

end HumanPart

theorem SignedInvoice.exists_of_parse {s : String} {invoice : SignedInvoice}
    (h : SignedInvoice.parse s = .ok invoice) :
    ∃ hrp ws, Bech32.decode s = .ok (hrp, ws) ∧ HumanPart.parse hrp.toList = .ok invoice.human := by
  unfold parse at h
  split at h
  · cases h
  next hrp ws hdecode =>
  refine ⟨hrp, ws, hdecode, ?_⟩
  unfold ofWords at h
  split at h
  · cases h
  obtain ⟨human, hhuman, h⟩ := bind_eq_ok_iff.1 h
  simp only at h
  split at h
  · cases h
  obtain ⟨fields, -, h⟩ := bind_eq_ok_iff.1 h
  obtain ⟨signature, -, h⟩ := bind_eq_ok_iff.1 h
  cases h
  exact hhuman

namespace DecodedInvoice

theorem exists_checked {request : String} {d : DecodedInvoice} (h : decode request = .ok d) :
    ∃ invoice, SignedInvoice.parse (trim request) = .ok invoice ∧ invoice.check = .ok () ∧
      ofSigned invoice = d := by
  unfold decode at h
  split at h
  · next hread =>
    cases h
    obtain ⟨invoice, hparse, hread⟩ := bind_eq_ok_iff.1 hread
    obtain ⟨_, hcheck, hread⟩ := bind_eq_ok_iff.1 hread
    cases hread
    exact ⟨invoice, hparse, hcheck, rfl⟩
  · cases h

theorem exists_of_decode {request : String} {d : DecodedInvoice} (h : decode request = .ok d) :
    ∃ invoice, SignedInvoice.parse (trim request) = .ok invoice ∧ ofSigned invoice = d := by
  obtain ⟨invoice, hparse, -, hd⟩ := exists_checked h
  exact ⟨invoice, hparse, hd⟩

theorem decode_trim (request : String) : decode (trim request) = decode request := by
  simp only [decode, read, trim_trim]

theorem decode_eq_ok {request : String} {invoice : SignedInvoice}
    (h : SignedInvoice.parse (trim request) = .ok invoice) (hcheck : invoice.check = .ok ()) :
    decode request = .ok (ofSigned invoice) := by
  have hread : read request = .ok (ofSigned invoice) :=
    bind_eq_ok_iff.2 ⟨invoice, h, bind_eq_ok_iff.2 ⟨(), hcheck, rfl⟩⟩
  rw [decode, hread]

/-- **A request starts with the prefix of its network**, letter case aside. -/
theorem networkPrefix_isStart {request : String} {d : DecodedInvoice} (h : decode request = .ok d) :
    d.networkPrefix.toList <+: (asciiLower (trim request)).toList := by
  obtain ⟨invoice, hparse, rfl⟩ := exists_of_decode h
  obtain ⟨hrp, ws, hdecode, hhuman⟩ := SignedInvoice.exists_of_parse hparse
  exact (HumanPart.code_isStart_of_parse hhuman).trans (Bech32.hrp_isStart hdecode)

theorem asciiLower_networkPrefix {request : String} {d : DecodedInvoice}
    (h : decode request = .ok d) : asciiLower d.networkPrefix = d.networkPrefix := by
  obtain ⟨invoice, -, rfl⟩ := exists_of_decode h
  show asciiLower ("ln" ++ invoice.human.currency.code) = "ln" ++ invoice.human.currency.code
  rw [← String.toList_inj, toList_asciiLower]
  cases invoice.human.currency <;> decide

/-- An amount leaves room for rounding: it is at most a tenth of the greatest word. -/
theorem amountMsat_le {request : String} {d : DecodedInvoice} (h : decode request = .ok d)
    {msat : UInt64} (hm : d.amountMsat = some msat) : msat.toNat * 10 < wordLimit := by
  obtain ⟨invoice, -, rfl⟩ := exists_of_decode h
  obtain ⟨pico, hpico, rfl⟩ := Option.map_eq_some_iff.1 hm
  have hlt := HumanPart.picoBitcoin_lt hpico
  have hmod : (UInt64.ofNat (pico / 10)).toNat = pico / 10 := by
    rw [UInt64.toNat_ofNat']
    exact Nat.mod_eq_of_lt (by unfold wordLimit at hlt; omega)
  rw [hmod]
  omega

end DecodedInvoice
end LightningLottery
