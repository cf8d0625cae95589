/-
  The facts of a payment request are the ones on the wire.

  * `Field.SaidBy`: what is read of a field is what its words say.
  * `WireRequest.facts`: the facts of a request, each taken from its words.
  * `WireField.counts`: whether a field counts; those of unknown tags or of other lengths do not.
  * `DecodedInvoice.facts_on_wire`: what is read of a text are the facts of its request, and fields
    that do not count change none of them.
-/
import LightningLottery.Proofs.Bech32.Regrouping
import LightningLottery.Proofs.Invoice.Network
import LightningLottery.Proofs.Invoice.Wire
import LightningLottery.Proofs.Session.Naming

namespace LightningLottery

/-! ## What a field says -/

namespace WireField

/-- The words of a field of the given tag. -/
def ofTag? (c : Char) (f : WireField) : Option (List Word) :=
  if Bech32.charOf f.tag = c then some f.content else none

/-- The words of a field of the given tag and length. -/
def sized? (c : Char) (length : Nat) (f : WireField) : Option (List Word) :=
  (f.ofTag? c).filter fun ws => ws.length = length

/-- The words of a field say nothing of payment hash, secret, payee, expiry and final delay. -/
def IsSilent (f : WireField) : Prop :=
  f.sized? 'p' Field.hashWords = none ∧ f.sized? 's' Field.hashWords = none ∧
    f.sized? 'n' Field.keyWords = none ∧ f.ofTag? 'x' = none ∧ f.ofTag? 'c' = none

theorem isSilent_of_tag {f : WireField}
    (h : Bech32.charOf f.tag ≠ 'p' ∧ Bech32.charOf f.tag ≠ 's' ∧ Bech32.charOf f.tag ≠ 'n' ∧
      Bech32.charOf f.tag ≠ 'x' ∧ Bech32.charOf f.tag ≠ 'c') : f.IsSilent := by
  obtain ⟨hp, hs, hn, hx, hc⟩ := h
  simp [IsSilent, sized?, ofTag?, *]

theorem isSilent_of_length {f : WireField}
    (h : Bech32.charOf f.tag = 'p' ∧ f.content.length ≠ Field.hashWords ∨
      Bech32.charOf f.tag = 's' ∧ f.content.length ≠ Field.hashWords ∨
      Bech32.charOf f.tag = 'n' ∧ f.content.length ≠ Field.keyWords) : f.IsSilent := by
  rcases h with ⟨htag, hlength⟩ | ⟨htag, hlength⟩ | ⟨htag, hlength⟩ <;>
    simp [IsSilent, sized?, ofTag?, htag, hlength]

end WireField

namespace Field

def paymentHash? : Field → Option Bytes
  | .paymentHash bs => some bs
  | _ => none

def paymentSecret? : Field → Option Bytes
  | .paymentSecret bs => some bs
  | _ => none

def payee? : Field → Option Bytes
  | .payee bs => some bs
  | _ => none

def expiry? : Field → Option Nat
  | .expiry n => some n
  | _ => none

def minFinalCltvExpiryDelta? : Field → Option Nat
  | .minFinalCltvExpiryDelta n => some n
  | _ => none

/-- What is read of a field is what its words say; its numbers take at most 64 bits. -/
structure SaidBy (f : Field) (w : WireField) : Prop where
  paymentHash : f.paymentHash? = (w.sized? 'p' hashWords).map bytesOfWords
  paymentSecret : f.paymentSecret? = (w.sized? 's' hashWords).map bytesOfWords
  payee : f.payee? = (w.sized? 'n' keyWords).map bytesOfWords
  expiry : f.expiry? = (w.ofTag? 'x').map wordNumber
  minFinalCltvExpiryDelta : f.minFinalCltvExpiryDelta? = (w.ofTag? 'c').map wordNumber
  expiry_lt : ∀ ws ∈ w.ofTag? 'x', wordNumber ws < wordLimit
  delta_lt : ∀ ws ∈ w.ofTag? 'c', wordNumber ws < wordLimit

theorem bytes_eq_ok {ws : List Word} {bs : Bytes} (h : bytes ws = .ok bs) : bs = bytesOfWords ws := by
  unfold bytes exactBytes? at h
  split at h
  · next hexact =>
    cases h
    exact (Option.some.inj (Option.ite_none_right_eq_some.1 hexact).2.symm)
  · cases h

theorem number_eq_ok {ws : List Word} {n : Nat} (h : number ws = .ok n) :
    n = wordNumber ws ∧ n < wordLimit := by
  unfold number at h
  split at h
  · next hlt => cases h; exact ⟨rfl, hlt⟩
  · cases h

theorem sized_eq_ok {length : Nat} {make : Bytes → Except InvoiceFault Field} {ws : List Word}
    {f : Field} (h : sized length make ws = .ok f) :
    ws.length = length ∧ make (bytesOfWords ws) = .ok f ∨ ws.length ≠ length ∧ f = .ignored := by
  unfold sized at h
  split at h
  · next hlength =>
    obtain ⟨bs, hbs, h⟩ := bind_eq_ok_iff.1 h
    exact Or.inl ⟨hlength, bytes_eq_ok hbs ▸ h⟩
  · next hlength =>
    cases h
    exact Or.inr ⟨hlength, rfl⟩

theorem parsePayee_eq_ok {bs : Bytes} {f : Field} (h : parsePayee bs = .ok f) : f = .payee bs := by
  unfold parsePayee at h
  split at h
  · cases h; rfl
  · cases h

/-- Whether a field says none of the five. -/
def isSilent : Field → Bool
  | .paymentHash _ | .paymentSecret _ | .payee _ | .expiry _ | .minFinalCltvExpiryDelta _ => false
  | _ => true

theorem isSilent_of_parseDescription {ws : List Word} {f : Field}
    (h : parseDescription ws = .ok f) : f.isSilent = true := by
  obtain ⟨bs, -, h⟩ := bind_eq_ok_iff.1 h
  split at h <;> cases h
  rfl

theorem isSilent_of_parseFallback {ws : List Word} {f : Field} (h : parseFallback ws = .ok f) :
    f.isSilent = true := by
  unfold parseFallback at h
  split at h
  · cases h
  obtain ⟨program, -, h⟩ := bind_eq_ok_iff.1 h
  split_ifs at h
  all_goals
    cases h
    try rfl

theorem isSilent_of_parseRoute {ws : List Word} {f : Field} (h : parseRoute ws = .ok f) :
    f.isSilent = true := by
  obtain ⟨bs, -, h⟩ := bind_eq_ok_iff.1 h
  split_ifs at h
  cases h
  rfl

theorem map_eq_ok {α : Type} {x : Except InvoiceFault α} {make : α → Field} {f : Field}
    (h : x.map make = .ok f) : ∃ a, x = .ok a ∧ make a = f := by
  cases x with
  | error e => cases h
  | ok a => exact ⟨a, rfl, Except.ok.inj h⟩

theorem isSilent_of_sized {length : Nat} {make : Bytes → Field} {ws : List Word} {f : Field}
    (hmake : ∀ bs, (make bs).isSilent = true)
    (h : sized length (fun bs => .ok (make bs)) ws = .ok f) : f.isSilent = true := by
  rcases sized_eq_ok h with ⟨-, h⟩ | ⟨-, rfl⟩
  · cases h; exact hmake _
  · rfl

theorem saidBy_of_isSilent {f : Field} {w : WireField} (hf : f.isSilent = true)
    (hw : w.IsSilent) : f.SaidBy w := by
  obtain ⟨hp, hs, hn, hx, hc⟩ := hw
  cases f with
  | paymentHash | paymentSecret | payee | expiry | minFinalCltvExpiryDelta => cases hf
  | _ =>
    constructor <;>
      simp [paymentHash?, paymentSecret?, payee?, expiry?, minFinalCltvExpiryDelta?, *]

/-- **A parsed field says what its words say.** -/
theorem saidBy_of_parse {w : WireField} {f : Field} (h : parse w.tag w.content = .ok f) :
    f.SaidBy w := by
  unfold parse at h
  split at h
  case h_1 htag =>
    rcases sized_eq_ok h with ⟨hlength, h⟩ | ⟨hlength, rfl⟩
    · cases h
      constructor <;> simp [WireField.sized?, WireField.ofTag?, htag, hlength, paymentHash?,
        paymentSecret?, payee?, expiry?, minFinalCltvExpiryDelta?]
    · exact saidBy_of_isSilent rfl (WireField.isSilent_of_length (Or.inl ⟨htag, hlength⟩))
  case h_2 htag =>
    exact saidBy_of_isSilent (isSilent_of_parseDescription h)
      (WireField.isSilent_of_tag (by simp [htag]))
  case h_3 htag =>
    exact saidBy_of_isSilent (isSilent_of_sized (fun _ => rfl) h)
      (WireField.isSilent_of_tag (by simp [htag]))
  case h_4 htag =>
    rcases sized_eq_ok h with ⟨hlength, h⟩ | ⟨hlength, rfl⟩
    · cases h
      constructor <;> simp [WireField.sized?, WireField.ofTag?, htag, hlength, paymentHash?,
        paymentSecret?, payee?, expiry?, minFinalCltvExpiryDelta?]
    · exact saidBy_of_isSilent rfl (WireField.isSilent_of_length (Or.inr (Or.inl ⟨htag, hlength⟩)))
  case h_5 htag =>
    rcases sized_eq_ok h with ⟨hlength, h⟩ | ⟨hlength, rfl⟩
    · have hf := parsePayee_eq_ok h
      subst hf
      constructor <;> simp [WireField.sized?, WireField.ofTag?, htag, hlength, paymentHash?,
        paymentSecret?, payee?, expiry?, minFinalCltvExpiryDelta?]
    · exact saidBy_of_isSilent rfl (WireField.isSilent_of_length (Or.inr (Or.inr ⟨htag, hlength⟩)))
  case h_6 htag =>
    obtain ⟨n, hn, rfl⟩ := map_eq_ok h
    obtain ⟨rfl, hlt⟩ := number_eq_ok hn
    constructor <;> simp [WireField.sized?, WireField.ofTag?, htag, hlt, paymentHash?,
      paymentSecret?, payee?, expiry?, minFinalCltvExpiryDelta?]
  case h_7 htag =>
    obtain ⟨n, hn, rfl⟩ := map_eq_ok h
    obtain ⟨rfl, hlt⟩ := number_eq_ok hn
    constructor <;> simp [WireField.sized?, WireField.ofTag?, htag, hlt, paymentHash?,
      paymentSecret?, payee?, expiry?, minFinalCltvExpiryDelta?]
  case h_8 htag =>
    cases h
    exact saidBy_of_isSilent rfl (WireField.isSilent_of_tag (by simp [htag]))
  case h_9 htag =>
    exact saidBy_of_isSilent (isSilent_of_parseFallback h)
      (WireField.isSilent_of_tag (by simp [htag]))
  case h_10 htag =>
    exact saidBy_of_isSilent (isSilent_of_parseRoute h) (WireField.isSilent_of_tag (by simp [htag]))
  case h_11 htag =>
    obtain ⟨bs, -, rfl⟩ := map_eq_ok h
    exact saidBy_of_isSilent rfl (WireField.isSilent_of_tag (by simp [htag]))
  case h_12 hp hd hh hs hn hx hc h9 hf hr hm =>
    cases h
    exact saidBy_of_isSilent rfl (WireField.isSilent_of_tag ⟨hp, hs, hn, hx, hc⟩)

end Field

/-! ## What the fields say -/

theorem filterMap_eq_of_forall₂ {α : Type} {cut : List WireField} {fields : List Field}
    {get : Field → Option α} {say : WireField → Option α}
    (h : List.Forall₂ (fun w f => get f = say w) cut fields) :
    fields.filterMap get = cut.filterMap say := by
  induction h with
  | nil => rfl
  | cons hsaid _ ih => simp only [List.filterMap_cons, hsaid, ih]

theorem filterMap_map {α β : Type} (g : α → β) (say : WireField → Option α) (cut : List WireField) :
    cut.filterMap (fun w => (say w).map g) = (cut.filterMap say).map g :=
  (List.map_filterMap ..).symm

theorem findSome?_map {α β : Type} (g : α → β) (say : WireField → Option α) (cut : List WireField) :
    cut.findSome? (fun w => (say w).map g) = (cut.findSome? say).map g := by
  rw [← List.head?_filterMap, filterMap_map, List.head?_map, List.head?_filterMap]

namespace WireRequest

/-- The facts of a request and its human-readable part. -/
def facts (w : WireRequest) (human : HumanPart) : DecodedInvoice where
  networkPrefix := "ln" ++ human.currency.code
  amountMsat := human.picoBitcoin.map fun pico => UInt64.ofNat (pico / 10)
  timestamp := UInt64.ofNat (wordNumber w.stamp)
  expiry := ((w.fields.findSome? (·.ofTag? 'x')).map fun ws =>
    UInt64.ofNat (wordNumber ws)).getD defaultExpiry
  paymentHash := hexEncode (((w.fields.findSome? (·.sized? 'p' Field.hashWords)).map
    bytesOfWords).getD [])
  paymentSecret := hexEncode (((w.fields.findSome? (·.sized? 's' Field.hashWords)).map
    bytesOfWords).getD [])
  payee := (w.fields.findSome? (·.sized? 'n' Field.keyWords)).map fun ws => hexEncode (bytesOfWords ws)
  minFinalCltvExpiryDelta := ((w.fields.findSome? (·.ofTag? 'c')).map fun ws =>
    UInt64.ofNat (wordNumber ws)).getD defaultMinFinalCltvExpiryDelta

end WireRequest

namespace SignedInvoice.ReadFrom

variable {invoice : SignedInvoice} {w : WireRequest}

theorem saidBy (h : invoice.ReadFrom w) :
    List.Forall₂ (fun w f => f.SaidBy w) w.fields invoice.fields :=
  h.fields.imp fun _ _ => Field.saidBy_of_parse

theorem findSome?_eq {α β : Type} (h : invoice.ReadFrom w) {get : Field → Option β}
    {say : WireField → Option α} {g : α → β}
    (hsaid : ∀ w f, f.SaidBy w → get f = (say w).map g) :
    invoice.fields.findSome? get = (w.fields.findSome? say).map g := by
  rw [← findSome?_map, ← List.head?_filterMap, ← List.head?_filterMap,
    filterMap_eq_of_forall₂ (h.saidBy.imp hsaid)]

/-- **The facts are computed from the words of the signed request.** -/
theorem ofSigned_eq (h : invoice.ReadFrom w) :
    DecodedInvoice.ofSigned invoice = w.facts invoice.human := by
  have hp := h.findSome?_eq fun _ _ hs => hs.paymentHash
  have hs := h.findSome?_eq fun _ _ hs => hs.paymentSecret
  have hn := h.findSome?_eq fun _ _ hs => hs.payee
  have hx := h.findSome?_eq fun _ _ hs => hs.expiry
  have hc := h.findSome?_eq fun _ _ hs => hs.minFinalCltvExpiryDelta
  have hexpiry : DecodedInvoice.firstNumber invoice Field.expiry? defaultExpiry =
      (w.facts invoice.human).expiry := by
    rw [DecodedInvoice.firstNumber, hx, Option.map_map]; rfl
  have hdelta : DecodedInvoice.firstNumber invoice Field.minFinalCltvExpiryDelta?
      defaultMinFinalCltvExpiryDelta = (w.facts invoice.human).minFinalCltvExpiryDelta := by
    rw [DecodedInvoice.firstNumber, hc, Option.map_map]; rfl
  have hhash : DecodedInvoice.firstBytes invoice Field.paymentHash? =
      (w.facts invoice.human).paymentHash := by
    rw [DecodedInvoice.firstBytes, hp]; rfl
  have hsecret : DecodedInvoice.firstBytes invoice Field.paymentSecret? =
      (w.facts invoice.human).paymentSecret := by
    rw [DecodedInvoice.firstBytes, hs]; rfl
  have hpayee : (invoice.fields.findSome? Field.payee?).map hexEncode =
      (w.facts invoice.human).payee := by
    rw [hn, Option.map_map]; rfl
  have htimestamp : UInt64.ofNat invoice.timestamp = (w.facts invoice.human).timestamp := by
    rw [h.timestamp]; rfl
  exact (DecodedInvoice.mk.injEq ..).mpr
    ⟨rfl, rfl, htimestamp, hexpiry, hhash, hsecret, hpayee, hdelta⟩

theorem number_lt (h : invoice.ReadFrom w) {f : WireField} (hf : f ∈ w.fields) {c : Char}
    (hc : c = 'x' ∨ c = 'c') {ws : List Word} (hws : f.ofTag? c = some ws) :
    wordNumber ws < wordLimit := by
  have hall : List.Forall₂ (fun w (_ : Field) =>
      (∀ ws ∈ w.ofTag? 'x', wordNumber ws < wordLimit) ∧
        ∀ ws ∈ w.ofTag? 'c', wordNumber ws < wordLimit) w.fields invoice.fields :=
    h.saidBy.imp fun _ _ hs => ⟨hs.expiry_lt, hs.delta_lt⟩
  obtain ⟨n, hn, rfl⟩ := List.mem_iff_getElem.1 hf
  have hboth := hall.get hn (hall.length_eq ▸ hn)
  rcases hc with rfl | rfl
  · exact hboth.1 ws hws
  · exact hboth.2 ws hws

theorem exists_only {α : Type} (h : invoice.ReadFrom w) {get : Field → Option Bytes}
    {say : WireField → Option α} {g : α → Bytes} {kind : Field → Bool}
    (hsaid : ∀ w f, f.SaidBy w → get f = (say w).map g) (hkind : ∀ f, (get f).isSome = kind f)
    (hone : (invoice.fields.filter kind).length = 1) : ∃ ws, w.fields.filterMap say = [ws] := by
  have heq := filterMap_eq_of_forall₂ (h.saidBy.imp hsaid)
  have hlength : (w.fields.filterMap say).length = 1 := by
    have hmap := congrArg List.length (heq.trans (filterMap_map g say w.fields))
    rw [List.length_map, List.length_filterMap_eq_countP, List.countP_eq_length_filter] at hmap
    rw [← hmap, ← hone]
    simp only [hkind]
  exact List.length_eq_one_iff.1 hlength

end SignedInvoice.ReadFrom

theorem SignedInvoice.exactlyOne_eq_ok {fields : List Field} {kind : Field → Bool}
    {missing many : InvoiceFault} (h : exactlyOne fields kind missing many = .ok ()) :
    (fields.filter kind).length = 1 := by
  unfold exactlyOne at h
  split at h
  · cases h
  · assumption
  · cases h

theorem SignedInvoice.of_check {invoice : SignedInvoice} (h : invoice.check = .ok ()) :
    (invoice.fields.filter isPaymentHash).length = 1 ∧
      (invoice.fields.filter isPaymentSecret).length = 1 := by
  obtain ⟨_, hhash, h⟩ := bind_eq_ok_iff.1 h
  obtain ⟨_, -, h⟩ := bind_eq_ok_iff.1 h
  obtain ⟨_, hsecret, -⟩ := bind_eq_ok_iff.1 h
  exact ⟨exactlyOne_eq_ok hhash, exactlyOne_eq_ok hsecret⟩

/-! ## Facts in numbers and digits -/

/-- The digits of the first bytes that the bits of words make up. -/
def IsHexOfFirst (count : Nat) (ws : List Word) (digits : String) : Prop :=
  ∃ bs : Bytes, digits = hexEncode bs ∧ bs.length = count ∧
    bs.flatMap byteBits = (ws.flatMap wordBits).take (8 * count)

theorem isHexOfFirst_bytesOfWords {ws : List Word} {count : Nat}
    (h : 5 * ws.length / 8 = count) : IsHexOfFirst count ws (hexEncode (bytesOfWords ws)) :=
  ⟨_, rfl, h ▸ length_bytesOfWords ws, h ▸ byteBits_bytesOfWords ws⟩

namespace WireRequest

/-- What a request says of payment hash, secret, payee, network and times. -/
structure Tells (w : WireRequest) (d : DecodedInvoice) : Prop where
  networkPrefix : d.networkPrefix.toList = w.hrp.toList.takeWhile fun c => !c.isDigit
  currency : ∃ currency : Currency, d.networkPrefix = "ln" ++ currency.code
  timestamp : d.timestamp.toNat = wordNumber w.stamp
  /-- There is one payment hash of 52 words. -/
  paymentHash : ∃ ws, w.fields.filterMap (·.sized? 'p' 52) = [ws] ∧ IsHexOfFirst 32 ws d.paymentHash
  /-- There is one payment secret of 52 words. -/
  paymentSecret :
    ∃ ws, w.fields.filterMap (·.sized? 's' 52) = [ws] ∧ IsHexOfFirst 32 ws d.paymentSecret
  /-- The first expiry counts, whatever its length. -/
  expiry : d.expiry.toNat = ((w.fields.findSome? (·.ofTag? 'x')).map wordNumber).getD 3600
  minFinalCltvExpiryDelta : d.minFinalCltvExpiryDelta.toNat =
    ((w.fields.findSome? (·.ofTag? 'c')).map wordNumber).getD 18
  /-- The first payee of 53 words counts. -/
  payee : w.fields.findSome? (·.sized? 'n' 53) = none ∧ d.payee = none ∨
    ∃ ws digits, w.fields.findSome? (·.sized? 'n' 53) = some ws ∧ d.payee = some digits ∧
      IsHexOfFirst 33 ws digits

end WireRequest

theorem wordNumber_lt (ws : List Word) : wordNumber ws < 32 ^ ws.length := by
  have hfold (n : Nat) : ws.foldl (fun n w => n * 32 + w.toNat) n < (n + 1) * 32 ^ ws.length := by
    induction ws generalizing n with
    | nil => simp
    | cons w ws ih =>
      have hw : w.toNat < 32 := w.isLt
      have hstep : n * 32 + w.toNat + 1 ≤ (n + 1) * 32 := by omega
      refine (ih _).trans_le ?_
      rw [List.length_cons, Nat.pow_succ, Nat.mul_comm (32 ^ ws.length), ← Nat.mul_assoc]
      exact Nat.mul_le_mul_right _ hstep
  have hzero := hfold 0
  rwa [Nat.zero_add, Nat.one_mul] at hzero

theorem WireField.length_of_sized {f : WireField} {c : Char} {length : Nat} {ws : List Word}
    (h : f.sized? c length = some ws) : ws.length = length := by
  simpa using (Option.filter_eq_some_iff.1 h).2

namespace SignedInvoice.ReadFrom

variable {invoice : SignedInvoice} {w : WireRequest}

theorem tells_number (h : invoice.ReadFrom w) {c : Char} (hc : c = 'x' ∨ c = 'c') (default : UInt64) :
    (((w.fields.findSome? (·.ofTag? c)).map fun ws => UInt64.ofNat (wordNumber ws)).getD
      default).toNat = ((w.fields.findSome? (·.ofTag? c)).map wordNumber).getD default.toNat := by
  cases hfind : w.fields.findSome? (·.ofTag? c) with
  | none => rfl
  | some ws =>
    obtain ⟨f, hf, hws⟩ := List.exists_of_findSome?_eq_some hfind
    exact UInt64.toNat_ofNat_of_lt (h.number_lt hf hc hws)

theorem tells_only {c : Char} {ws : List Word}
    (h : w.fields.filterMap (·.sized? c Field.hashWords) = [ws]) :
    IsHexOfFirst 32 ws (hexEncode (((w.fields.findSome? (·.sized? c Field.hashWords)).map
      bytesOfWords).getD [])) := by
  have hmem : ws ∈ w.fields.filterMap (·.sized? c Field.hashWords) := h ▸ List.mem_singleton_self ws
  obtain ⟨f, -, hf⟩ := List.mem_filterMap.1 hmem
  rw [← List.head?_filterMap, h]
  exact isHexOfFirst_bytesOfWords (by rw [WireField.length_of_sized hf]; rfl)

/-- **A signed request that passes the check tells what its words say.** -/
theorem tells (h : invoice.ReadFrom w) (hcheck : invoice.check = .ok ()) :
    w.Tells (w.facts invoice.human) := by
  obtain ⟨hhash, hsecret⟩ := SignedInvoice.of_check hcheck
  obtain ⟨hash, hp⟩ :=
    h.exists_only (fun _ _ hs => hs.paymentHash) (by rintro (_ | _) <;> rfl) hhash
  obtain ⟨secret, hs⟩ :=
    h.exists_only (fun _ _ hs => hs.paymentSecret) (by rintro (_ | _) <;> rfl) hsecret
  refine ⟨HumanPart.code_eq_takeWhile h.human, ⟨_, rfl⟩, ?_, ⟨hash, hp, tells_only hp⟩,
    ⟨secret, hs, tells_only hs⟩, h.tells_number (Or.inl rfl) _, h.tells_number (Or.inr rfl) _, ?_⟩
  · have hlt := wordNumber_lt w.stamp
    rw [w.length_stamp] at hlt
    exact UInt64.toNat_ofNat_of_lt (hlt.trans (by decide))
  · cases hn : w.fields.findSome? (·.sized? 'n' Field.keyWords) with
    | none => exact Or.inl ⟨hn, by rw [WireRequest.facts, hn]; rfl⟩
    | some ws =>
      obtain ⟨f, -, hf⟩ := List.exists_of_findSome?_eq_some hn
      refine Or.inr ⟨ws, _, hn, by rw [WireRequest.facts, hn]; rfl, ?_⟩
      exact isHexOfFirst_bytesOfWords (by rw [WireField.length_of_sized hf]; rfl)

end SignedInvoice.ReadFrom

/-! ## Fields that do not count -/

/-- Whether a field counts: its tag is known, and its length is the one its tag asks for. -/
def WireField.counts (f : WireField) : Bool :=
  match Bech32.charOf f.tag with
  | 'p' | 'h' | 's' => f.content.length = 52
  | 'n' => f.content.length = 53
  | 'd' | 'x' | 'c' | '9' | 'f' | 'r' | 'm' => true
  | _ => false

theorem WireField.isSilent_of_counts {f : WireField} (h : f.counts = false) : f.IsSilent := by
  unfold counts at h
  split at h
  case h_1 htag => exact isSilent_of_length (Or.inl ⟨htag, of_decide_eq_false h⟩)
  case h_2 htag => exact isSilent_of_tag (by simp [htag])
  case h_3 htag => exact isSilent_of_length (Or.inr (Or.inl ⟨htag, of_decide_eq_false h⟩))
  case h_4 htag => exact isSilent_of_length (Or.inr (Or.inr ⟨htag, of_decide_eq_false h⟩))
  case h_12 hp hh hs hn hd hx hc h9 hf hr hm => exact isSilent_of_tag ⟨hp, hs, hn, hx, hc⟩
  all_goals cases h

theorem findSome?_filter_counts {α : Type} {say : WireField → Option α}
    (h : ∀ f : WireField, f.IsSilent → say f = none) (fs : List WireField) :
    (fs.filter WireField.counts).findSome? say = fs.findSome? say := by
  rw [← List.head?_filterMap, ← List.head?_filterMap, List.filterMap_filter]
  congr 2
  funext f
  split
  · rfl
  · next hcounts => exact (h f (WireField.isSilent_of_counts (Bool.eq_false_iff.2 hcounts))).symm

/-- **Fields that do not count make no difference**, in any number and at any place. -/
theorem WireRequest.facts_congr {v w : WireRequest} (hstamp : v.stamp = w.stamp)
    (hfields : v.fields.filter WireField.counts = w.fields.filter WireField.counts)
    (human : HumanPart) : v.facts human = w.facts human := by
  have hsame {α : Type} {say : WireField → Option α}
      (h : ∀ f : WireField, f.IsSilent → say f = none) :
      v.fields.findSome? say = w.fields.findSome? say := by
    rw [← findSome?_filter_counts h v.fields, hfields, findSome?_filter_counts h]
  rw [facts, facts, hstamp, hsame fun f hf => hf.1, hsame fun f hf => hf.2.1,
    hsame fun f hf => hf.2.2.1, hsame fun f hf => hf.2.2.2.1, hsame fun f hf => hf.2.2.2.2]

/-! ## Requests as they are read -/

namespace DecodedInvoice

theorem exists_wire {request : String} {d : DecodedInvoice} (h : decode request = .ok d) :
    ∃ (w : WireRequest) (human : HumanPart), asciiLower (trim request) = w.text ∧ w.Tells d ∧
      HumanPart.parse w.hrp.toList = .ok human ∧ d = w.facts human := by
  obtain ⟨invoice, hparse, hcheck, rfl⟩ := exists_checked h
  obtain ⟨w, htext, hw⟩ := SignedInvoice.exists_wire hparse
  rw [hw.ofSigned_eq]
  exact ⟨w, invoice.human, htext, hw.tells hcheck, hw.human, rfl⟩

/-- **The facts of a decoded request are those of its words** (`WireRequest.Tells`), and the words
    are the only ones with that text. Two requests with the same human-readable part, time stamp and
    fields that count decode to the same facts. -/
theorem facts_on_wire {request : String} {d : DecodedInvoice} (h : decode request = .ok d) :
    ∃ w : WireRequest, asciiLower (trim request) = w.text ∧
      (∀ v : WireRequest, asciiLower (trim request) = v.text → v = w) ∧ w.Tells d ∧
      ∀ other e (v : WireRequest), decode other = .ok e → asciiLower (trim other) = v.text →
        v.hrp = w.hrp → v.stamp = w.stamp →
        v.fields.filter WireField.counts = w.fields.filter WireField.counts → e = d := by
  obtain ⟨w, human, htext, htells, hhuman, hd⟩ := exists_wire h
  refine ⟨w, htext, fun v hv => WireRequest.eq_of_text (hv.symm.trans htext), htells, ?_⟩
  intro other e v hother hv hhrp hstamp hfields
  obtain ⟨v', human', hv', -, hhuman', he⟩ := exists_wire hother
  obtain rfl : v' = v := WireRequest.eq_of_text (hv'.symm.trans hv)
  rw [hhrp, hhuman] at hhuman'
  cases hhuman'
  rw [he, hd, WireRequest.facts_congr hstamp hfields]

/-! ## Two notes -/

open WithdrawalCourse (note noteHrp noteWords decode_note)

/-- A field of 32 bytes, all of them zero. -/
def zeroField (tag : Word) : WireField := ⟨tag, 1, 20, List.replicate 52 0, rfl⟩

/-- The fields of the note: payment hash, description, payment secret and features. -/
def noteFields : List WireField :=
  [zeroField 1, ⟨13, 0, 0, [], rfl⟩, zeroField 16, ⟨5, 0, 3, [16, 8, 0], rfl⟩]

/-- A request like the note, with the given fields. -/
def noteWith (fields : List WireField) : WireRequest where
  hrp := String.ofList noteHrp
  stamp := List.replicate 7 0
  fields := fields
  signature := wordsOfBytes ((toLittleEndian 32 Secp256k1.Point.base.x).reverse ++
    (toLittleEndian 32 1).reverse ++ [0])
  length_stamp := rfl
  length_signature := by decide +kernel

/-- The fields of the note, with a short payment hash in front, a field of an unknown tag in the
    middle, and a short payee at the end. -/
def fullerFields : List WireField :=
  ⟨1, 0, 2, [3, 4], rfl⟩ :: zeroField 1 :: ⟨13, 0, 0, [], rfl⟩ :: ⟨0, 0, 1, [31], rfl⟩ ::
    zeroField 16 :: ⟨5, 0, 3, [16, 8, 0], rfl⟩ :: [⟨19, 0, 1, [7], rfl⟩]

theorem text_noteFields : (noteWith noteFields).text = note := by
  have hwords : (noteWith noteFields).words = noteWords := by decide +kernel
  rw [WireRequest.text, hwords, noteWith, String.toList_ofList]
  rfl

theorem decode_fuller : ∃ e, decode (noteWith fullerFields).text = .ok e := by
  have hread : ((SignedInvoice.ofWords (noteWith fullerFields).hrp
      (noteWith fullerFields).words).toOption.map fun i => i.check.toOption) = some (some ()) := by
    decide +kernel
  obtain ⟨i, hi, hcheck⟩ := Option.map_eq_some_iff.1 hread
  have hhrp : Bech32.IsHrp (noteWith fullerFields).hrp :=
    Bech32.isHrp_ofList_iff.2 ⟨by decide, by decide, by simp [noteHrp], Or.inl (by simp [noteHrp])⟩
  refine ⟨_, decode_eq_ok ?_ (toOption_eq_some_iff.1 hcheck)⟩
  rw [(WireRequest.asciiLower_trim_text _ (by decide) (by decide)).1,
    WireRequest.parse_text hhrp (by decide), toOption_eq_some_iff.1 hi]

/-- A note and the same note with unknown fields decode to the same facts. -/
theorem facts_on_wire_note : ∃ d, decode note = .ok d ∧ (noteWith noteFields).Tells d ∧
    (noteWith fullerFields).fields.length = 7 ∧ decode (noteWith fullerFields).text = .ok d := by
  obtain ⟨d, hd, -⟩ := decode_note
  rw [decode_trim] at hd
  obtain ⟨e, he⟩ := decode_fuller
  obtain ⟨w, -, honly, htells, hsame⟩ := facts_on_wire hd
  have hsmall (fields : List WireField) :
      asciiLower (trim (noteWith fields).text) = (noteWith fields).text := by
    have hblank : (String.ofList noteHrp).toList.any isBlank = false := by decide
    have hcase : (String.ofList noteHrp).toList.map Char.toLower = (String.ofList noteHrp).toList := by
      decide
    obtain ⟨htrim, hlower⟩ := (noteWith fields).asciiLower_trim_text hblank hcase
    rw [htrim, hlower]
  have hnote : asciiLower (trim note) = (noteWith noteFields).text :=
    text_noteFields ▸ hsmall noteFields
  obtain rfl := honly _ hnote
  have hfuller := hsmall fullerFields
  obtain rfl := hsame _ e _ he hfuller rfl rfl (by decide)
  exact ⟨e, hd, htells, rfl, he⟩

end DecodedInvoice
end LightningLottery
