/-
  Payment requests in another letter case, and with blanks around them.

  * `SameButCase`: a text in one letter case that is another one, letter case and blanks around it
    aside.
  * `DecodedInvoice.decode_congr`, `validateInvoice_congr`: it is read and accepted as that one is.
  * `DecodedInvoice.oneCase_of_decode`: what is read keeps to one letter case.
  * `letter_case_and_blanks`: so capital letters and blanks change nothing, and two letter cases in
    one text are refused.
-/
import LightningLottery.Proofs.Bech32.Inverse
import LightningLottery.Proofs.Invoice.Acceptance
import LightningLottery.Proofs.Text.LetterCase

namespace LightningLottery

open Bech32 (OneCase)

/-- `t` keeps to one letter case, and is `s`, letter case and blanks around it aside. -/
structure SameButCase (s t : String) : Prop where
  oneCase : OneCase (trim t).toList
  same : asciiLower (trim t) = asciiLower (trim s)

/-! ## Reading -/

theorem SignedInvoice.parse_congr {s t : String} {invoice : SignedInvoice}
    (h : SignedInvoice.parse s = .ok invoice) (hcase : OneCase t.toList)
    (hlower : asciiLower t = asciiLower s) : SignedInvoice.parse t = .ok invoice := by
  obtain ⟨hrp, ws, hread, -⟩ := exists_of_parse h
  have ht := Bech32.decode_congr hread hcase hlower
  unfold parse at h ⊢
  rw [hread] at h
  rw [ht]
  exact h

namespace DecodedInvoice

/-- **Decoding does not depend on the letter case.** -/
theorem decode_congr {s t : String} {d : DecodedInvoice} (h : decode s = .ok d)
    (ht : SameButCase s t) : decode t = .ok d := by
  unfold decode at h ⊢
  split at h
  · next hread =>
    obtain ⟨invoice, hparse, hrest⟩ := bind_eq_ok_iff.1 hread
    have hparse' := SignedInvoice.parse_congr hparse ht.oneCase ht.same
    have hread' : read t = read s := by rw [read, read, hparse, hparse']
    rw [hread', hread]
    exact h
  · cases h

/-- **A text that decodes is in one letter case.** -/
theorem oneCase_of_decode {s : String} {d : DecodedInvoice} (h : decode s = .ok d) :
    OneCase (trim s).toList := by
  obtain ⟨invoice, hparse, -⟩ := exists_of_decode h
  obtain ⟨hrp, ws, hread, -⟩ := SignedInvoice.exists_of_parse hparse
  exact (Bech32.decode_eq_ok_iff.1 hread).2.1

end DecodedInvoice

/-! ## Validation -/

/-- **Validation does not depend on the letter case**, of the request or of the prefix of the
    network. -/
theorem validateInvoice_congr {s t networkPrefix networkPrefix' : String}
    {target max : Option UInt64} {now : UInt64} {invoice : Invoice}
    (h : validateInvoice s networkPrefix target max now = .ok invoice) (ht : SameButCase s t)
    (hnetwork : eqIgnoringCase networkPrefix networkPrefix' = true) :
    validateInvoice t networkPrefix' target max now = .ok invoice := by
  obtain ⟨d, hd, ha, hhash⟩ := exists_acceptable h
  rw [DecodedInvoice.decode_trim] at hd
  have hdecode : DecodedInvoice.decode (trim t) = .ok d := by
    rw [DecodedInvoice.decode_trim]
    exact DecodedInvoice.decode_congr hd ht
  have hnetwork' : eqIgnoringCase d.networkPrefix networkPrefix' = true := by
    rw [eqIgnoringCase_iff] at hnetwork ⊢
    rw [← hnetwork, eqIgnoringCase_iff.1 ha.network]
  rw [validateInvoice_eq_ok hdecode { ha with network := hnetwork' }, ← hhash]

/-! ## Forms of a text -/

/-- A text as it is, in small letters, or in capital letters. -/
def letterForms (s : String) : List String := [s, asciiLower s, asciiUpper s]

theorem asciiLower_of_mem_letterForms {s t : String} (h : t ∈ letterForms s) :
    asciiLower t = asciiLower s := by
  rcases List.mem_cons.1 h with rfl | h
  · rfl
  rcases List.mem_pair.1 h with rfl | rfl
  · exact asciiLower_asciiLower s
  · exact asciiLower_asciiUpper s

theorem oneCase_of_mem_letterForms {s t : String} (hs : OneCase s.toList) (h : t ∈ letterForms s) :
    OneCase t.toList := by
  rcases List.mem_cons.1 h with rfl | h
  · exact hs
  rcases List.mem_pair.1 h with rfl | rfl
  · rw [toList_asciiLower]; exact Bech32.oneCase_toLower _
  · rw [toList_asciiUpper]; exact Bech32.oneCase_toUpper _

theorem trim_mem_letterForms {s t : String} (h : t ∈ letterForms s) :
    trim t ∈ letterForms (trim s) := by
  rcases List.mem_cons.1 h with rfl | h
  · exact List.mem_cons_self
  refine List.mem_cons_of_mem _ ?_
  rcases List.mem_pair.1 h with rfl | rfl
  · rw [trim_asciiLower]; exact List.mem_cons_self
  · rw [trim_asciiUpper]; exact List.mem_cons_of_mem _ List.mem_cons_self

theorem sameButCase_form {s t front back : String} (hs : OneCase (trim s).toList)
    (h : t ∈ letterForms s) (hfront : IsBlanks front) (hback : IsBlanks back) :
    SameButCase s (front ++ t ++ back) := by
  refine ⟨?_, ?_⟩
  · rw [trim_surrounded hfront hback]
    exact oneCase_of_mem_letterForms hs (trim_mem_letterForms h)
  · rw [trim_surrounded hfront hback]
    exact asciiLower_of_mem_letterForms (trim_mem_letterForms h)

/-- Small and capital letters meet in a text, blanks around it aside. -/
def IsMixed (s : String) : Prop :=
  (∃ c ∈ (trim s).toList, c.isUpper = true) ∧ ∃ c ∈ (trim s).toList, c.isLower = true

theorem IsMixed.not_oneCase {s : String} (h : IsMixed s) : ¬ OneCase (trim s).toList := by
  obtain ⟨⟨c, hc, hupper⟩, d, hd, hlower⟩ := h
  rintro (hsmall | hcapital)
  · exact Bool.false_ne_true ((hsmall c hc).symm.trans hupper)
  · exact Bool.false_ne_true ((hcapital d hd).symm.trans hlower)

/-- **A request in small letters, in capital letters and between blanks decodes and validates
    alike**, for the prefix of the network in any letter case. A text with both small and capital
    letters is refused. -/
theorem letter_case_and_blanks (s : String) :
    (∀ d, DecodedInvoice.decode s = .ok d → ∀ t ∈ letterForms s, ∀ front back,
      IsBlanks front → IsBlanks back → DecodedInvoice.decode (front ++ t ++ back) = .ok d) ∧
    (∀ networkPrefix target max now invoice,
      validateInvoice s networkPrefix target max now = .ok invoice → ∀ t ∈ letterForms s,
        ∀ front back networkPrefix', IsBlanks front → IsBlanks back →
          eqIgnoringCase networkPrefix networkPrefix' = true →
          validateInvoice (front ++ t ++ back) networkPrefix' target max now = .ok invoice) ∧
    (IsMixed s → (∃ e, DecodedInvoice.decode s = .error e) ∧
      ∀ networkPrefix target max now,
        ∃ e, validateInvoice s networkPrefix target max now = .error e) := by
  refine ⟨fun d hd t ht front back hfront hback => ?_,
    fun networkPrefix target max now invoice h t ht front back other hfront hback hnetwork => ?_,
    fun hmixed => ⟨?_, fun networkPrefix target max now => ?_⟩⟩
  · have hcase := DecodedInvoice.oneCase_of_decode hd
    exact DecodedInvoice.decode_congr hd (sameButCase_form hcase ht hfront hback)
  · obtain ⟨d, hd, -⟩ := exists_acceptable h
    have hcase := DecodedInvoice.oneCase_of_decode hd
    rw [trim_trim] at hcase
    exact validateInvoice_congr h (sameButCase_form hcase ht hfront hback) hnetwork
  · rcases hd : DecodedInvoice.decode s with e | d
    · exact ⟨e, rfl⟩
    · exact absurd (DecodedInvoice.oneCase_of_decode hd) hmixed.not_oneCase
  · rcases h : validateInvoice s networkPrefix target max now with e | invoice
    · exact ⟨e, rfl⟩
    · obtain ⟨d, hd, -⟩ := exists_acceptable h
      have hcase := DecodedInvoice.oneCase_of_decode (DecodedInvoice.decode_trim s ▸ hd)
      exact absurd hcase hmixed.not_oneCase

end LightningLottery
