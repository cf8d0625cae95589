/-
  What has to hold for the payout of a withdrawal to be asked for.

  * `Session.PayoutDue`: all checks pass, in unbounded numbers.
  * `Session.PayoutRefused`: the first check that fails, and what is said then.
  * `Session.AsksPayout`: the request for the payout, in the name of the identity of the session.
  * `Session.requestPayout_eq_ok_iff`, `Session.requestPayout_of_refused`: the checks of a
    withdrawal are these, in this order.
-/
import LightningLottery.Proofs.Api.Flight
import LightningLottery.Proofs.Identity.Check
import LightningLottery.Proofs.Invoice.Acceptance
import LightningLottery.Session.Withdrawal

namespace LightningLottery

/-! ## What is left of the prizes -/

theorem withdrawable_zero (fee : UInt64) : withdrawable 0 fee = .error (.validation .noPrizes) :=
  if_pos rfl

theorem withdrawable_lt {prizes fee : UInt64} (hpos : 0 < prizes.toNat)
    (h : prizes.toNat < fee.toNat) : withdrawable prizes fee = .error (.validation .invalidFee) := by
  have hne : prizes ≠ 0 := fun he => absurd (he ▸ hpos) (by decide)
  rw [withdrawable, if_neg hne, if_pos (UInt64.lt_iff_toNat_lt.2 h)]

theorem withdrawable_le {prizes fee : UInt64} (hpos : 0 < prizes.toNat)
    (h : fee.toNat ≤ prizes.toNat) :
    withdrawable prizes fee = .ok (prizes - fee) ∧
      (prizes - fee).toNat = prizes.toNat - fee.toNat := by
  have hne : prizes ≠ 0 := fun he => absurd (he ▸ hpos) (by decide)
  have hnlt : ¬ prizes < fee := fun hlt => Nat.not_lt_of_le h (UInt64.lt_iff_toNat_lt.1 hlt)
  refine ⟨by rw [withdrawable, if_neg hne, if_neg hnlt], ?_⟩
  exact UInt64.toNat_sub_of_le _ _ (UInt64.le_iff_toNat_le.2 h)

theorem validateInvoice_max_iff {request networkPrefix : String} {target : Option UInt64}
    {max now : UInt64} {invoice : Invoice} :
    validateInvoice request networkPrefix target (some max) now = .ok invoice ↔
      validateInvoice request networkPrefix target none now = .ok invoice ∧
        invoice.amountSat.toNat ≤ max.toNat := by
  have heq {d : DecodedInvoice} (hhash : invoice.paymentHash = d.paymentHash) :
      (⟨d.paymentHash, invoice.amountSat⟩ : Invoice) = invoice := by rw [← hhash]
  constructor
  · intro h
    obtain ⟨d, hd, ha, hhash⟩ := exists_acceptable h
    have hfree : d.Acceptable networkPrefix target none now invoice.amountSat :=
      ⟨ha.network, ha.asks, nofun, ha.unexpired⟩
    exact ⟨(validateInvoice_eq_ok hd hfree).trans (congrArg Except.ok (heq hhash)),
      ha.bounded max rfl⟩
  · rintro ⟨h, hle⟩
    obtain ⟨d, hd, ha, hhash⟩ := exists_acceptable h
    have hbounded : d.Acceptable networkPrefix target (some max) now invoice.amountSat := by
      refine ⟨ha.network, ha.asks, ?_, ha.unexpired⟩
      intro m hm
      cases hm
      exact hle
    exact (validateInvoice_eq_ok hd hbounded).trans (congrArg Except.ok (heq hhash))

namespace Session

variable {Tag : Type}

/-! ## The checks -/

/-- All that has to hold for a payout of an invoice out of prizes. -/
structure PayoutDue (s : Session Tag) (now : UInt64) (order : WithdrawalOrder) (prizes : UInt64)
    (invoice : Invoice) : Prop where
  positive : 0 < prizes.toNat
  fee : order.fee.toNat ≤ prizes.toNat
  valid : validateInvoice order.request s.config.bolt11Prefix none none now = .ok invoice
  covered : invoice.amountSat.toNat + order.fee.toNat ≤ prizes.toNat
  keys : (∃ secret, decodeHexKey s.identity.privateKey = .ok secret) ∧
    ∃ key, decodeHexKey s.identity.publicKey = .ok key

/-- The first check that fails, and what is said then. -/
inductive PayoutRefused (s : Session Tag) (now : UInt64) (order : WithdrawalOrder)
    (prizes : UInt64) : Error → Prop
  | noPrizes (h : prizes.toNat = 0) : PayoutRefused s now order prizes (.validation .noPrizes)
  | fee (hpos : 0 < prizes.toNat) (h : prizes.toNat < order.fee.toNat) :
    PayoutRefused s now order prizes (.validation .invalidFee)
  | invoice {max : UInt64} {e : Error} (hpos : 0 < prizes.toNat)
    (hfee : order.fee.toNat ≤ prizes.toNat) (hmax : max.toNat = prizes.toNat - order.fee.toNat)
    (h : Refused order.request s.config.bolt11Prefix none (some max) now e) :
    PayoutRefused s now order prizes e
  | signature {invoice : Invoice} {e : Error} (hpos : 0 < prizes.toNat)
    (hfee : order.fee.toNat ≤ prizes.toNat)
    (hvalid : validateInvoice order.request s.config.bolt11Prefix none none now = .ok invoice)
    (hcovered : invoice.amountSat.toNat + order.fee.toNat ≤ prizes.toNat)
    (h : s.identity.signature = .error e) : PayoutRefused s now order prizes e

/-- A request that asks for the payout of an order with the signature of the identity of the
    session over its own public key, that key, and the fee, and goes in the name of the session. -/
def AsksPayout (s : Session Tag) (order : WithdrawalOrder) (request : Request) : Prop :=
  ∃ secret key url, decodeHexKey s.identity.privateKey = .ok secret ∧
    decodeHexKey s.identity.publicKey = .ok key ∧
    s.api.urlOf (.withdraw ((KeyPair.mk secret).sign key) order.request s.identity.publicKey
      order.fee) = .ok url ∧
    request = s.api.requestFor .post url

/-- What a payout request carries: the signature of the identity over its own public key, that key,
    the payment request and the fee, in the name of the session. -/
def CarriesPayout (s : Session Tag) (order : WithdrawalOrder) (post : Request) : Prop :=
  post.method = .post ∧ post.authorization = s.api.authorization ∧
    ∃ secret key, decodeHexKey s.identity.privateKey = .ok secret ∧
      decodeHexKey s.identity.publicKey = .ok key ∧
      post.url.query = some (String.ofList (Form.write
        [("k1", (KeyPair.mk secret).sign key), ("pr", order.request),
         ("pubkey", s.identity.publicKey), ("fee", decimalText order.fee.toNat)]))

theorem AsksPayout.carriesPayout {s : Session Tag} {order : WithdrawalOrder} {post : Request}
    (h : s.AsksPayout order post) : s.CarriesPayout order post := by
  obtain ⟨secret, key, url, hsecret, hkey, hurl, rfl⟩ := h
  refine ⟨rfl, rfl, secret, key, hsecret, hkey, ?_⟩
  exact ApiClient.urlOf_query hurl (List.cons_ne_nil _ _)

theorem due_or_refused (s : Session Tag) (now : UInt64) (order : WithdrawalOrder)
    (prizes : UInt64) :
    (∃ invoice, s.PayoutDue now order prizes invoice) ∨
      ∃ e, s.PayoutRefused now order prizes e := by
  rcases Nat.eq_zero_or_pos prizes.toNat with hzero | hpos
  · exact Or.inr ⟨_, .noPrizes hzero⟩
  rcases Nat.lt_or_ge prizes.toNat order.fee.toNat with hlt | hfee
  · exact Or.inr ⟨_, .fee hpos hlt⟩
  obtain ⟨-, hmax⟩ := withdrawable_le hpos hfee
  rcases acceptable_or_refused order.request s.config.bolt11Prefix none
      (some (prizes - order.fee)) now with ⟨d, sat, hd, ha⟩ | ⟨e, he⟩
  swap
  · exact Or.inr ⟨e, .invoice hpos hfee hmax he⟩
  obtain ⟨hvalid, hle⟩ := validateInvoice_max_iff.1 (validateInvoice_eq_ok hd ha)
  have hcovered : sat.toNat + order.fee.toNat ≤ prizes.toNat := by
    rw [hmax] at hle
    exact Nat.add_le_of_le_sub hfee hle
  cases hsignature : s.identity.signature with
  | error e => exact Or.inr ⟨e, .signature hpos hfee hvalid hcovered hsignature⟩
  | ok signature =>
    obtain ⟨secret, key, hsecret, hkey, -⟩ := Identity.signature_eq_ok_iff.1 hsignature
    exact Or.inl ⟨_, hpos, hfee, hvalid, hcovered, ⟨secret, hsecret⟩, key, hkey⟩

variable {s : Session Tag} {now : UInt64} {order : WithdrawalOrder} {reply : PrizesReply}

theorem PayoutDue.not_refused {prizes : UInt64} {invoice : Invoice} {e : Error}
    (h : s.PayoutDue now order prizes invoice) : ¬ s.PayoutRefused now order prizes e := by
  intro hrefused
  cases hrefused with
  | noPrizes hzero => exact absurd h.positive (hzero ▸ Nat.lt_irrefl 0)
  | fee hpos hlt => exact absurd h.fee (Nat.not_le_of_lt hlt)
  | @invoice max _ hpos hfee hmax hinvoice =>
    have hbounded := validateInvoice_max_iff.2
      ⟨h.valid, by rw [hmax]; exact Nat.le_sub_of_add_le h.covered⟩
    rw [validateInvoice_eq_error hinvoice] at hbounded
    cases hbounded
  | signature hpos hfee hvalid hcovered hsignature =>
    obtain ⟨⟨secret, hsecret⟩, key, hkey⟩ := h.keys
    have hsigned := Identity.signature_eq_ok_iff.2 ⟨secret, key, hsecret, hkey, rfl⟩
    rw [hsignature] at hsigned
    cases hsigned

theorem requestPayout_of_refused {e : Error} (h : s.PayoutRefused now order reply.prizes e) :
    s.requestPayout now order reply = .error e := by
  cases h with
  | noPrizes h =>
    have hzero : reply.prizes = 0 := UInt64.toNat_inj.1 h
    rw [requestPayout, hzero, withdrawable_zero]
    rfl
  | fee hpos h =>
    rw [requestPayout, withdrawable_lt hpos h]
    rfl
  | @invoice max _ hpos hfee hmax h =>
    obtain ⟨hleft, hle⟩ := withdrawable_le hpos hfee
    have hsame : reply.prizes - order.fee = max := UInt64.toNat_inj.1 (hle.trans hmax.symm)
    rw [requestPayout, hleft, hsame]
    show validateInvoice _ _ _ _ _ >>= _ = _
    rw [validateInvoice_eq_error h]
    rfl
  | signature hpos hfee hvalid hcovered h =>
    obtain ⟨hleft, hle⟩ := withdrawable_le hpos hfee
    have hbounded := validateInvoice_max_iff.2
      ⟨hvalid, by rw [hle]; exact Nat.le_sub_of_add_le hcovered⟩
    rw [requestPayout, hleft]
    show validateInvoice _ _ _ _ _ >>= _ = _
    rw [hbounded, h]
    rfl

/-- **A payout is asked for exactly if all checks pass**, by a client that can send. -/
theorem requestPayout_eq_ok_iff {invoice : Invoice} {flight : Flight WithdrawReply} :
    s.requestPayout now order reply = .ok (invoice, flight) ↔
      s.PayoutDue now order reply.prizes invoice ∧ s.api.CanSend ∧
        s.AsksPayout order flight.request ∧ flight.signal = s.api.signal.current := by
  constructor
  · intro h
    rcases s.due_or_refused now order reply.prizes with ⟨invoice', hdue⟩ | ⟨e, he⟩
    swap
    · rw [requestPayout_of_refused he] at h
      cases h
    obtain ⟨max, hmax, h⟩ := bind_eq_ok_iff.1 h
    obtain ⟨accepted, haccepted, h⟩ := bind_eq_ok_iff.1 h
    obtain ⟨signature, hsignature, h⟩ := bind_eq_ok_iff.1 h
    obtain ⟨launched, hlaunched, h⟩ := bind_eq_ok_iff.1 h
    cases h
    obtain rfl : invoice' = invoice :=
      Except.ok.inj (hdue.valid.symm.trans (validateInvoice_max_iff.1 haccepted).1)
    obtain ⟨secret, key, hsecret, hkey, rfl⟩ := Identity.signature_eq_ok_iff.1 hsignature
    obtain ⟨hsend, url, hurl, rfl⟩ := ApiClient.launch_eq_ok_iff.1 hlaunched
    exact ⟨hdue, hsend, ⟨secret, key, url, hsecret, hkey, hurl, rfl⟩, rfl⟩
  · rintro ⟨hdue, hsend, ⟨secret, key, url, hsecret, hkey, hurl, hrequest⟩, hsignal⟩
    obtain ⟨hleft, hle⟩ := withdrawable_le hdue.positive hdue.fee
    have hbounded := validateInvoice_max_iff.2
      ⟨hdue.valid, by rw [hle]; exact Nat.le_sub_of_add_le hdue.covered⟩
    have hsignature := Identity.signature_eq_ok_iff.2 ⟨secret, key, hsecret, hkey, rfl⟩
    have hlaunched := ApiClient.launch_eq_ok_iff.2 ⟨hsend, url, hurl, rfl⟩
    have hflight : flight = ⟨s.api.requestFor .post url, s.api.signal.current⟩ := by
      cases flight
      cases hrequest
      cases hsignal
      rfl
    refine bind_eq_ok_iff.2 ⟨_, hleft, bind_eq_ok_iff.2 ⟨_, hbounded,
      bind_eq_ok_iff.2 ⟨_, hsignature, bind_eq_ok_iff.2 ⟨_, hlaunched, ?_⟩⟩⟩⟩
    rw [hflight]
    rfl

theorem PayoutDue.exists_requestPayout {invoice : Invoice}
    (h : s.PayoutDue now order reply.prizes invoice) (hsend : s.api.CanSend) :
    ∃ flight, s.requestPayout now order reply = .ok (invoice, flight) ∧
      s.AsksPayout order flight.request ∧ flight.signal = s.api.signal.current := by
  obtain ⟨⟨secret, hsecret⟩, key, hkey⟩ := h.keys
  obtain ⟨url, hurl, -⟩ := hsend.exists_launch
    (.withdraw ((KeyPair.mk secret).sign key) order.request s.identity.publicKey order.fee)
  have hasks : s.AsksPayout order (s.api.requestFor .post url) :=
    ⟨secret, key, url, hsecret, hkey, hurl, rfl⟩
  exact ⟨⟨s.api.requestFor .post url, s.api.signal.current⟩,
    requestPayout_eq_ok_iff.2 ⟨h, hsend, hasks, rfl⟩, hasks, rfl⟩

end Session
end LightningLottery
