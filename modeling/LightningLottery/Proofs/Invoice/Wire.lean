/-
  A payment request as it stands on the wire: five-bit words behind a human-readable part.

  * `WireField`: a tagged field, that is a tag, a length of two words, and as many words.
  * `WireRequest`: the time, one field after the other, and the signature; `WireRequest.text` is how
    they are written.
  * `WireField.flatMap_words_injective`: words are cut into fields in one way at most.
  * `WireRequest.eq_of_text`: a text is that of one request at most.
  * `SignedInvoice.exists_wire`: what is read is what such a request says.
-/
import LightningLottery.Invoice.Basic
import LightningLottery.Proofs.Bech32.Reading

namespace LightningLottery

/-! ## Fields -/

/-- A tagged field: its length is a number of ten bits. -/
structure WireField where
  tag : Word
  high : Word
  low : Word
  content : List Word
  length_content : content.length = wordNumber [high, low]
  deriving DecidableEq, Repr

namespace WireField

def words (f : WireField) : List Word := f.tag :: f.high :: f.low :: f.content

theorem eq_of_parts {f g : WireField} (htag : f.tag = g.tag) (hhigh : f.high = g.high)
    (hlow : f.low = g.low) (hcontent : f.content = g.content) : f = g := by
  cases f; cases g; simp_all

/-- **Words are cut into fields in one way at most**: each field tells where the next one starts. -/
theorem flatMap_words_injective : Function.Injective (List.flatMap words) := by
  intro fs gs h
  induction fs generalizing gs with
  | nil =>
    cases gs with
    | nil => rfl
    | cons g gs => simp [words] at h
  | cons f fs ih =>
    cases gs with
    | nil => simp [words] at h
    | cons g gs =>
      simp only [List.flatMap_cons, words, List.cons_append, List.cons.injEq] at h
      obtain ⟨htag, hhigh, hlow, h⟩ := h
      have hlength : f.content.length = g.content.length := by
        rw [f.length_content, g.length_content, hhigh, hlow]
      obtain ⟨hcontent, hrest⟩ := List.append_inj h hlength
      rw [eq_of_parts htag hhigh hlow hcontent, ih hrest]

end WireField

/-- **What is read as fields is cut into them**, each read on its own. -/
theorem exists_cut {ws : List Word} {fields : List Field} (h : fieldsOfWords ws = .ok fields) :
    ∃ cut : List WireField, ws = cut.flatMap WireField.words ∧
      List.Forall₂ (fun w f => Field.parse w.tag w.content = .ok f) cut fields := by
  induction ws using fieldsOfWords.induct generalizing fields with
  | case1 =>
    rw [fieldsOfWords] at h
    cases h
    exact ⟨[], rfl, .nil⟩
  | case2 tag high low rest length =>
    rename_i hshort
    rw [fieldsOfWords, if_pos hshort] at h
    cases h
  | case3 tag high low rest length hlength =>
    rename_i ih
    rw [fieldsOfWords, if_neg hlength] at h
    obtain ⟨field, hfield, h⟩ := bind_eq_ok_iff.1 h
    obtain ⟨later, hlater, h⟩ := bind_eq_ok_iff.1 h
    cases h
    obtain ⟨cut, hcut, hparse⟩ := ih hlater
    refine ⟨⟨tag, high, low, rest.take length, ?_⟩ :: cut, ?_, .cons hfield hparse⟩
    · exact List.length_take_of_le (Nat.le_of_not_lt hlength)
    · rw [List.flatMap_cons, ← hcut, WireField.words, List.cons_append, List.cons_append,
        List.cons_append, List.take_append_drop]
  | case4 ws hnil hcons =>
    rw [fieldsOfWords] at h
    · cases h
    · exact hnil
    · exact hcons

/-! ## Requests -/

/-- A payment request: seven words of time, the fields, and 104 words of signature. -/
structure WireRequest where
  hrp : String
  stamp : List Word
  fields : List WireField
  signature : List Word
  length_stamp : stamp.length = SignedInvoice.timestampWords
  length_signature : signature.length = SignedInvoice.signatureWords
  deriving DecidableEq, Repr

namespace WireRequest

def words (w : WireRequest) : List Word :=
  w.stamp ++ w.fields.flatMap WireField.words ++ w.signature

/-- The text of a request, with the checksum behind its words. -/
def text (w : WireRequest) : String :=
  Bech32.written w.hrp.toList (w.words ++ Bech32.checksum w.hrp.toList w.words)

/-- **A text is that of one request at most.** -/
theorem eq_of_text {v w : WireRequest} (h : v.text = w.text) : v = w := by
  obtain ⟨hhrp, hwords⟩ := Bech32.written_injective h
  have hlength : (Bech32.checksum v.hrp.toList v.words).length =
      (Bech32.checksum w.hrp.toList w.words).length := by
    rw [Bech32.length_checksum, Bech32.length_checksum]
  obtain ⟨hwords, -⟩ := List.append_inj' hwords hlength
  obtain ⟨hsigned, hsignature⟩ := List.append_inj' hwords
    (v.length_signature.trans w.length_signature.symm)
  obtain ⟨hstamp, hfields⟩ := List.append_inj hsigned (v.length_stamp.trans w.length_stamp.symm)
  have hfields := WireField.flatMap_words_injective hfields
  have hhrp := String.toList_inj.1 hhrp
  cases v; cases w; simp_all

theorem asciiLower_trim_text (w : WireRequest) (hhrp : w.hrp.toList.any isBlank = false)
    (hsmall : w.hrp.toList.map Char.toLower = w.hrp.toList) :
    trim w.text = w.text ∧ asciiLower w.text = w.text :=
  ⟨Bech32.trim_written hhrp, Bech32.asciiLower_written hsmall _⟩

/-- **The text of a request is read as its words.** -/
theorem parse_text {w : WireRequest} (hhrp : Bech32.IsHrp w.hrp)
    (hsmall : w.hrp.toList.map Char.toLower = w.hrp.toList) :
    SignedInvoice.parse w.text = SignedInvoice.ofWords w.hrp w.words := by
  have hread := Bech32.decode_written (by rwa [String.ofList_toList]) hsmall w.words
  rw [String.ofList_toList] at hread
  rw [SignedInvoice.parse, text, hread]

end WireRequest

/-- What a signed invoice says is on the wire: time and fields are those of the words. -/
structure SignedInvoice.ReadFrom (invoice : SignedInvoice) (w : WireRequest) : Prop where
  human : HumanPart.parse w.hrp.toList = .ok invoice.human
  timestamp : invoice.timestamp = wordNumber w.stamp
  fields : List.Forall₂ (fun w f => Field.parse w.tag w.content = .ok f) w.fields invoice.fields

theorem SignedInvoice.exists_wire_of_words {hrp : String} {ws : List Word} {invoice : SignedInvoice}
    (h : ofWords hrp ws = .ok invoice) :
    ∃ w : WireRequest, w.hrp = hrp ∧ w.words = ws ∧ invoice.ReadFrom w := by
  unfold ofWords at h
  split at h
  · cases h
  next hlong =>
  obtain ⟨human, hhuman, h⟩ := bind_eq_ok_iff.1 h
  simp only at h
  split at h
  · cases h
  next hstamp =>
  obtain ⟨fields, hfields, h⟩ := bind_eq_ok_iff.1 h
  obtain ⟨signature, -, h⟩ := bind_eq_ok_iff.1 h
  cases h
  obtain ⟨cut, hcut, hread⟩ := exists_cut hfields
  refine ⟨⟨hrp, (ws.take (ws.length - signatureWords)).take timestampWords, cut,
    ws.drop (ws.length - signatureWords), ?_, ?_⟩, rfl, ?_, hhuman, rfl, hread⟩
  · exact List.length_take_of_le (Nat.le_of_not_lt hstamp)
  · rw [List.length_drop]
    omega
  · rw [WireRequest.words, ← hcut, List.take_append_drop, List.take_append_drop]

/-- **What is read of a text is what a request says** whose text it is, letter case aside. -/
theorem SignedInvoice.exists_wire {s : String} {invoice : SignedInvoice}
    (h : SignedInvoice.parse s = .ok invoice) :
    ∃ w : WireRequest, asciiLower s = w.text ∧ invoice.ReadFrom w := by
  unfold parse at h
  split at h
  · cases h
  next hrp ws hdecode =>
  obtain ⟨w, rfl, rfl, hread⟩ := exists_wire_of_words h
  exact ⟨w, (Bech32.decode_eq_ok_iff.1 hdecode).2.2, hread⟩

end LightningLottery
