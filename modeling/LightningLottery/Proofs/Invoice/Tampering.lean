/-
  LNURLs and payment requests of which some characters have been replaced.

  * `Altered.withoutScheme`: the scheme in front of an LNURL has no part in what is altered.
  * `Altered.lnurl_decode_eq`, `Altered.invoice_decode_eq`: the refusal of what was accepted before.
  * `altered_refused`: whatever is accepted is refused once it is altered.
-/
import LightningLottery.Lnurl
import LightningLottery.Proofs.Bech32.Alteration
import LightningLottery.Proofs.Invoice.Acceptance
import LightningLottery.Proofs.Session.Naming

namespace LightningLottery

/-! ## Refusals -/

theorem Lnurl.decode_eq_error {s : String} {cause : Bech32Error}
    (h : Bech32.decode (withoutScheme (trim s)) = .error cause) :
    decode s = .error (.bech32 cause) := by
  unfold decode
  rw [h]

theorem DecodedInvoice.decode_eq_error {request : String} {cause : Bech32Error}
    (h : Bech32.decode (trim request) = .error cause) :
    decode request = .error (.validation (.invalidInvoice (InvoiceFault.bech32 cause).message)) := by
  have hfault : read request = .error (.bech32 cause) := by
    rw [read, SignedInvoice.parse, h]
    rfl
  rw [decode, hfault]

namespace Bech32

/-! ## Alterations behind a start -/

/-- A prefix without the character `c` is a prefix of what stands before the first `c`. -/
theorem isPrefixOf_append_of_notMem {start front : List Char} {c : Char} (hc : c ∈ front)
    (hnot : c ∉ start) (rest : List Char) :
    start.isPrefixOf (front ++ rest) = start.isPrefixOf front := by
  rw [Bool.eq_iff_iff, List.isPrefixOf_iff_prefix, List.isPrefixOf_iff_prefix]
  refine ⟨fun h => ?_, fun h => h.trans (List.prefix_append front rest)⟩
  rcases List.prefix_or_prefix_of_prefix h (List.prefix_append front rest) with hp | hp
  · exact hp
  · exact absurd (hp.subset hc) hnot

namespace Altered

variable {s t : String}

theorem stripStart? (h : Altered s t) (start : String) (hnot : separator ∉ start.toList) :
    (stripStart? start s = none ∧ stripStart? start t = none) ∨
      ∃ s' t', LightningLottery.stripStart? start s = some s' ∧
        LightningLottery.stripStart? start t = some t' ∧ Altered s' t' := by
  obtain ⟨front, old, new, back, h⟩ := h
  have hs := isPrefixOf_append_of_notMem h.behind hnot (old ++ back)
  have ht := isPrefixOf_append_of_notMem h.behind hnot (new ++ back)
  rw [← List.append_assoc, ← h.was] at hs
  rw [← List.append_assoc, ← h.is] at ht
  unfold LightningLottery.stripStart?
  rw [hs, ht]
  split
  · next hp =>
    obtain ⟨rest, rfl⟩ := List.isPrefixOf_iff_prefix.1 hp
    refine Or.inr ⟨_, _, rfl, rfl, rest, old, new, back, ?_, ?_, ?_, h.last, h.few, h.length,
      h.differs, h.data, h.oneCase⟩
    · rw [String.toList_ofList, h.was, ← String.length_toList, List.append_assoc,
        List.append_assoc, List.drop_left, List.append_assoc]
    · rw [String.toList_ofList, h.is, ← String.length_toList, List.append_assoc,
        List.append_assoc, List.drop_left, List.append_assoc]
    · exact (List.mem_append.1 h.behind).resolve_left hnot
  · exact Or.inl ⟨rfl, rfl⟩

/-- **An alteration of an LNURL is one of its Bech32 text**, with or without a scheme in front. -/
theorem withoutScheme (h : Altered s t) :
    Altered (Lnurl.withoutScheme s) (Lnurl.withoutScheme t) := by
  unfold Lnurl.withoutScheme
  rcases h.stripStart? "lightning:" (by decide) with ⟨hs, ht⟩ | ⟨s', t', hs, ht, h'⟩
  · rw [hs, ht]
    rcases h.stripStart? "LIGHTNING:" (by decide) with ⟨hs, ht⟩ | ⟨s', t', hs, ht, h'⟩
    · rw [hs, ht]
      exact h
    · rw [hs, ht]
      exact h'
  · rw [hs, ht]
    exact h'

/-! ## Texts that were accepted -/

theorem lnurl_decode_eq (h : Altered s t) {url : String} (hs : Lnurl.decode s = .ok url) :
    ∃ cause, Lnurl.decode t = .error (.bech32 cause) ∧
      (OneCase (Lnurl.withoutScheme (LightningLottery.trim t)).toList →
        cause = .invalidChecksum) := by
  unfold Lnurl.decode at hs
  split at hs
  · cases hs
  next found words hread =>
  obtain ⟨cause, ht, hcause⟩ := h.trim.withoutScheme.exists_cause hread
  exact ⟨cause, Lnurl.decode_eq_error ht, hcause⟩

theorem invoice_decode_eq (h : Altered s t) {d : DecodedInvoice}
    (hs : DecodedInvoice.decode s = .ok d) :
    ∃ cause, DecodedInvoice.decode t =
        .error (.validation (.invalidInvoice (InvoiceFault.bech32 cause).message)) ∧
      (OneCase (LightningLottery.trim t).toList → cause = .invalidChecksum) := by
  obtain ⟨invoice, hparse, -⟩ := DecodedInvoice.exists_of_decode hs
  obtain ⟨hrp, ws, hread, -⟩ := SignedInvoice.exists_of_parse hparse
  obtain ⟨cause, ht, hcause⟩ := h.trim.exists_cause hread
  exact ⟨cause, DecodedInvoice.decode_eq_error ht, hcause⟩

theorem validateInvoice_ne_ok (h : Altered s t) {d : DecodedInvoice}
    (hs : DecodedInvoice.decode s = .ok d) (networkPrefix : String) (target max : Option UInt64)
    (now : UInt64) : ∃ e, validateInvoice t networkPrefix target max now = .error e := by
  rcases ht : validateInvoice t networkPrefix target max now with e | invoice
  · exact ⟨e, rfl⟩
  · obtain ⟨d', hd', -⟩ := exists_acceptable ht
    obtain ⟨cause, hcause, -⟩ := h.invoice_decode_eq hs
    rw [DecodedInvoice.decode_trim, hcause] at hd'
    cases hd'

end Altered

/-- **An accepted text is refused once up to six of its last characters in a row are altered**
    (`Altered`), as a Bech32 text, an LNURL and a payment request; if it keeps to one letter case,
    for its checksum. -/
theorem altered_refused {s t : String} (h : Altered s t) :
    (∀ read, decode s = .ok read → OneCase t.toList → decode t = .error .invalidChecksum) ∧
    (∀ url, Lnurl.decode s = .ok url →
      ∃ cause, Lnurl.decode t = .error (.bech32 cause) ∧
        (OneCase (Lnurl.withoutScheme (trim t)).toList → cause = .invalidChecksum)) ∧
    (∀ d, DecodedInvoice.decode s = .ok d →
      (∃ cause, DecodedInvoice.decode t =
          .error (.validation (.invalidInvoice (InvoiceFault.bech32 cause).message)) ∧
        (OneCase (trim t).toList → cause = .invalidChecksum)) ∧
      ∀ networkPrefix target max now,
        ∃ e, validateInvoice t networkPrefix target max now = .error e) ∧
    ∀ networkPrefix target max now invoice,
      validateInvoice s networkPrefix target max now = .ok invoice →
        ∃ e, validateInvoice t networkPrefix target max now = .error e := by
  refine ⟨fun _ => h.decode_eq, fun _ => h.lnurl_decode_eq,
    fun _ hd => ⟨h.invoice_decode_eq hd, h.validateInvoice_ne_ok hd⟩, ?_⟩
  intro networkPrefix target max now invoice hs
  obtain ⟨d, hd, -⟩ := exists_acceptable hs
  rw [DecodedInvoice.decode_trim] at hd
  exact h.validateInvoice_ne_ok hd networkPrefix target max now

/-! ## A code and a note -/

open WithdrawalCourse (note noteHrp noteWords decode_note validate_note)

theorem altered_written (hrp : List Char) (before was now after : List Word)
    (hlength : now.length = was.length) (hfew : was.length ≤ 6) (hdiffers : now ≠ was) :
    Altered (written hrp (before ++ was ++ after)) (written hrp (before ++ now ++ after)) := by
  refine ⟨hrp ++ separator :: before.map charOf, was.map charOf, now.map charOf,
    after.map charOf, ?_, ?_, by simp, separator_notMem after, by simpa using hfew,
    by simpa using hlength, fun h => hdiffers (List.map_injective_iff.2 charOf_injective h),
    ?_, Or.inl ?_⟩
  · simp only [toList_written, List.map_append, List.append_assoc, List.cons_append]
  · simp only [toList_written, List.map_append, List.append_assoc, List.cons_append]
  · simp only [List.forall_mem_append, List.forall_mem_map]
    exact ⟨fun w _ => ⟨w, toLower_charOf w⟩, fun w _ => ⟨w, toLower_charOf w⟩⟩
  · simp only [List.forall_mem_append, List.forall_mem_map]
    exact ⟨fun w _ => (charOf_spec w).2.1, fun w _ => (charOf_spec w).2.1⟩

/-- The LNURL of one letter, and the same with its two words in the other order. -/
def letterCode (words : List Word) : String :=
  written Lnurl.hrp.toList (words ++ checksum Lnurl.hrp.toList [12, 4])

/-- The note of 4000 satoshis, with another word in front. -/
def otherNote : String :=
  written noteHrp (1 :: (noteWords.drop 1 ++ checksum noteHrp noteWords))

/-- An LNURL with two words exchanged, and a note with another time stamp. -/
theorem altered_refused_code_and_note :
    (Altered (letterCode [12, 4]) (letterCode [4, 12]) ∧
      Lnurl.decode (letterCode [12, 4]) = .ok "a" ∧
      (∃ read, decode (letterCode [12, 4]) = .ok read) ∧
      OneCase (letterCode [4, 12]).toList ∧
      decode (letterCode [4, 12]) = .error .invalidChecksum ∧
      ∃ cause, Lnurl.decode (letterCode [4, 12]) = .error (.bech32 cause)) ∧
    Altered note otherNote ∧
      (∃ d, DecodedInvoice.decode note = .ok d) ∧
      (∃ e, DecodedInvoice.decode otherNote = .error e) ∧
      (∃ invoice, validateInvoice note "lnbc" none none 0 = .ok invoice) ∧
      ∃ e, validateInvoice otherNote "lnbc" none none 0 = .error e := by
  have hcode : Altered (letterCode [12, 4]) (letterCode [4, 12]) :=
    altered_written _ [] [12, 4] [4, 12] _ rfl (by decide) (by decide)
  have hnote : Altered note otherNote :=
    altered_written noteHrp [] [0] [1] (noteWords.drop 1 ++ checksum noteHrp noteWords) rfl
      (by decide) (by decide)
  have hurl : Lnurl.decode (letterCode [12, 4]) = .ok "a" :=
    toOption_eq_some_iff.1 (by decide +kernel)
  have hread : ∃ read, decode (letterCode [12, 4]) = .ok read := by
    exact ⟨("lnurl", [12, 4]), toOption_eq_some_iff.1 (by decide +kernel)⟩
  have hcase : OneCase (letterCode [4, 12]).toList := by
    rw [letterCode, toList_written, oneCase_separator]
    refine Or.inl (List.forall_mem_append.2 ⟨by simp [Lnurl.hrp], ?_⟩)
    exact List.forall_mem_map.2 fun w _ => (charOf_spec w).2.1
  have hpaid : ∃ d, DecodedInvoice.decode note = .ok d := by
    obtain ⟨d, hd, -⟩ := decode_note
    exact ⟨d, DecodedInvoice.decode_trim note ▸ hd⟩
  obtain ⟨read, hdecode⟩ := hread
  obtain ⟨d, hd⟩ := hpaid
  obtain ⟨invoice, hvalid, -⟩ := validate_note
  obtain ⟨hbech32, hlnurl, -⟩ := altered_refused hcode
  obtain ⟨-, -, hinvoice, hvalidate⟩ := altered_refused hnote
  obtain ⟨cause, hcause, -⟩ := hlnurl _ hurl
  obtain ⟨⟨cause', hcause', -⟩, -⟩ := hinvoice _ hd
  exact ⟨⟨hcode, hurl, ⟨read, hdecode⟩, hcase, hbech32 _ hdecode hcase, cause, hcause⟩, hnote,
    ⟨d, hd⟩, ⟨_, hcause'⟩, ⟨invoice, hvalid⟩, hvalidate _ _ _ _ _ hvalid⟩

end Bech32
end LightningLottery
