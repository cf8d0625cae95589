/-
  What a bet asks of the server, and what comes of it.

  * `BetPasses`: a reply holds a payment request that is valid for the network and the amount.
  * `Session.resumeBet_gate`: a bet that goes on waits for its payment if the reply passes, and else
    changes nothing.
  * `Session.serveBet`: a bet with a server that takes no time, request by request.
  * `Session.BetStopped`: what keeps a bet from being placed.
  * `Session.BetGated`: what a bet sends, when it is placed, and what is left of it otherwise.
  * `SessionCourse.placeBet_gate`: so it is in a session in any state.
-/
import LightningLottery.Proofs.Api.Aborting
import LightningLottery.Proofs.Invoice.Acceptance
import LightningLottery.Proofs.Session.Naming
import LightningLottery.Proofs.Url.Form

namespace LightningLottery

variable {Tag : Type}

/-! ## Replies that pass -/

/-- A whole reply of success holds the payment request and the payment id of a bet, and the request
    is valid for the network and exactly the amount. -/
structure BetPasses (config : Config) (now amount : UInt64) (exchange : Exchange)
    (bet : PendingBet) : Prop where
  reply : ∃ status body reply, exchange = .answered status body ∧ isSuccess status = true ∧
    status ≠ noContent ∧ Wire.decode body = .ok (reply : InvoiceReply) ∧
    reply.invoice = bet.request ∧ reply.paymentId = bet.paymentId
  valid : validateInvoice bet.request config.bolt11Prefix (some amount) none now = .ok bet.invoice

/-- The invoice of a bet that passes has the amount of the bet and the payment hash of the request.
    -/
theorem BetPasses.invoice {config : Config} {now amount : UInt64} {exchange : Exchange}
    {bet : PendingBet} (h : BetPasses config now amount exchange bet) :
    bet.invoice.amountSat = amount ∧ ∃ d, DecodedInvoice.decode (trim bet.request) = .ok d ∧
      bet.invoice.paymentHash = d.paymentHash := by
  obtain ⟨d, hd, ha, hhash⟩ := exists_acceptable h.valid
  exact ⟨ha.asks.onTarget amount rfl, d, hd, hhash⟩

namespace Session

variable {s : Session Tag} {server : ApiClient.Server} {now amount : UInt64}

theorem acceptBet_eq_ok_iff {reply : InvoiceReply} {bet : PendingBet} :
    s.acceptBet now amount reply = .ok bet ↔
      validateInvoice bet.request s.config.bolt11Prefix (some amount) none now = .ok bet.invoice ∧
        reply.invoice = bet.request ∧ reply.paymentId = bet.paymentId := by
  unfold acceptBet
  rw [bind_eq_ok_iff]
  constructor
  · rintro ⟨invoice, hvalid, h⟩
    cases h
    exact ⟨hvalid, rfl, rfl⟩
  · rintro ⟨hvalid, hrequest, hid⟩
    exact ⟨bet.invoice, hrequest ▸ hvalid, by rw [hrequest, hid]; rfl⟩

theorem acceptBet_of_refused {reply : InvoiceReply} {e : Error}
    (h : Refused reply.invoice s.config.bolt11Prefix (some amount) none now e) :
    s.acceptBet now amount reply = .error e := by
  rw [acceptBet, validateInvoice_eq_error h]
  rfl

theorem acceptBet_cases (s : Session Tag) (now amount : UInt64) (reply : InvoiceReply) :
    (∃ bet, s.acceptBet now amount reply = .ok bet) ∨
      ∃ e, Refused reply.invoice s.config.bolt11Prefix (some amount) none now e := by
  rcases acceptable_or_refused reply.invoice s.config.bolt11Prefix (some amount) none now with
    ⟨d, sat, hd, ha⟩ | hrefused
  · refine .inl ⟨⟨reply.invoice, ⟨d.paymentHash, sat⟩, reply.paymentId⟩, ?_⟩
    exact acceptBet_eq_ok_iff.2 ⟨validateInvoice_eq_ok hd ha, rfl, rfl⟩
  · exact .inr hrefused

theorem endBet_ok_iff {exchange : Exchange} {url : Url} {bet : PendingBet} :
    (s.endBet now amount (exchange.result InvoiceReply url)).2 = .ok bet ↔
      BetPasses s.config now amount exchange bet := by
  have hresult : (s.endBet now amount (exchange.result InvoiceReply url)).2 =
      (exchange.result InvoiceReply url).bind (s.acceptBet now amount) := by
    unfold endBet
    split
    · next h => exact h.symm
    · next h => exact h.symm
  rw [hresult]
  constructor
  · intro h
    obtain ⟨reply, hreply, haccept⟩ := bind_eq_ok_iff.1 h
    obtain ⟨status, body, hexchange, hsuccess, hcontent, hread⟩ :=
      Exchange.result_eq_ok_iff.1 hreply
    obtain ⟨hvalid, hrequest, hid⟩ := acceptBet_eq_ok_iff.1 haccept
    exact ⟨⟨status, body, reply, hexchange, hsuccess, hcontent, hread, hrequest, hid⟩, hvalid⟩
  · rintro ⟨⟨status, body, reply, hexchange, hsuccess, hcontent, hread, hrequest, hid⟩, hvalid⟩
    have hreply : exchange.result InvoiceReply url = .ok reply :=
      Exchange.result_eq_ok_iff.2 ⟨status, body, hexchange, hsuccess, hcontent, hread⟩
    exact bind_eq_ok_iff.2 ⟨reply, hreply, acceptBet_eq_ok_iff.2 ⟨hvalid, hrequest, hid⟩⟩

/-- A bet is placed and waits for its payment, or leaves the session as it is. -/
theorem endBet_cases (s : Session Tag) (now amount : UInt64) (result : Except Error InvoiceReply) :
    (∃ bet, s.endBet now amount result = (s.track .invoices bet.paymentId, .ok bet)) ∨
      ∃ e, s.endBet now amount result = (s, .error e) := by
  unfold endBet
  split
  · exact .inl ⟨_, rfl⟩
  · exact .inr ⟨_, rfl⟩

/-- What a bet makes of a session when it goes on with what became of its request: it waits for its
    payment exactly if the request was not told to end and the reply passes, and else the session
    stays as it is. -/
structure BetResumed (s : Session Tag) (now amount : UInt64) (flight : Flight InvoiceReply)
    (ready : Option Exchange) (after : Session Tag × BetStep) : Prop where
  placed : ∀ bet, after.2 = .ended (.ok bet) ↔ s.api.isAborted flight = false ∧
    ∃ exchange, ready = some exchange ∧ BetPasses s.config now amount exchange bet
  changes : (∃ bet, after = (s.track .invoices bet.paymentId, .ended (.ok bet))) ∨ after.1 = s

section Resumed

variable {flight : Flight InvoiceReply}

theorem resumeBet_of_aborted (h : s.api.isAborted flight = true) (ready : Option Exchange) :
    s.resumeBet now ready (.asking amount flight) = (s, .ended (.error .aborted)) := by
  simp only [resumeBet, ApiClient.poll, h, if_true, endBet, Except.bind]

theorem resumeBet_none (h : s.api.isAborted flight = false) :
    s.resumeBet now none (.asking amount flight) = (s, .asking amount flight) := by
  simp only [resumeBet, ApiClient.poll, h, Bool.false_eq_true, if_false, Option.map_none]

theorem resumeBet_some (h : s.api.isAborted flight = false) (exchange : Exchange) :
    s.resumeBet now (some exchange) (.asking amount flight) =
      let ended := s.endBet now amount (exchange.result InvoiceReply flight.request.url)
      (ended.1, .ended ended.2) := by
  simp only [resumeBet, ApiClient.poll_some, ApiClient.land_of_not_aborted h]

end Resumed

/-- **`BetResumed` holds of every bet that goes on.** -/
theorem resumeBet_gate (s : Session Tag) (now amount : UInt64) (flight : Flight InvoiceReply)
    (ready : Option Exchange) :
    s.BetResumed now amount flight ready (s.resumeBet now ready (.asking amount flight)) := by
  rcases Bool.eq_false_or_eq_true (s.api.isAborted flight) with haborted | hopen
  · rw [resumeBet_of_aborted haborted]
    refine ⟨fun bet => ⟨nofun, fun h => ?_⟩, .inr rfl⟩
    rw [haborted] at h
    cases h.1
  cases ready with
  | none =>
    rw [resumeBet_none hopen]
    refine ⟨fun bet => ⟨nofun, fun ⟨_, _, hready, _⟩ => ?_⟩, .inr rfl⟩
    cases hready
  | some exchange =>
    rw [resumeBet_some hopen]
    refine ⟨fun bet => ?_, ?_⟩
    · simp only [BetStep.ended.injEq, endBet_ok_iff, hopen, Option.some.injEq, exists_eq_left',
        true_and]
    · rcases s.endBet_cases now amount (exchange.result InvoiceReply flight.request.url) with
        ⟨bet, h⟩ | ⟨e, h⟩ <;> rw [h]
      · exact .inl ⟨bet, rfl⟩
      · exact .inr rfl

end Session

/-! ## Bets with a server that takes no time -/

/-- The request that a bet has out. -/
def BetStep.request? : BetStep → Option Request
  | .asking _ flight => some flight.request
  | .ended _ => none

namespace Session

/-- Lets a bet go on with a server that takes no time, for at most `n` requests: those that are sent,
    and how far it gets. -/
def serveBet (server : ApiClient.Server) (now : UInt64) :
    Nat → Session Tag → BetStep → List Request × Session Tag × BetStep
  | 0, s, step => ([], s, step)
  | n + 1, s, step =>
    match step.request? with
    | none => ([], s, step)
    | some request =>
      let (after, next) := s.resumeBet now (some (server request)) step
      let (sent, last) := serveBet server now n after next
      (request :: sent, last)

/-- The requests that a bet sends. -/
def sentByBet (s : Session Tag) (server : ApiClient.Server) (now amount : UInt64) : List Request :=
  (serveBet server now 1 s (s.beginBet amount)).1

/-- A request that asks for a payment request over an amount, in the name of the session. -/
structure AsksInvoice (s : Session Tag) (amount : UInt64) (get : Request) : Prop where
  method : get.method = .get
  url : s.api.urlOf (.invoice amount) = .ok get.url
  query : ∃ query, get.url.query = some query ∧
    Form.read query.toList = [("amount", decimalText amount.toNat)]
  authorization : get.authorization = s.api.authorization

/-- What keeps a bet from being placed: a zero amount, the request for a payment request, or the
    first check of that which fails. -/
inductive BetStopped (s : Session Tag) (server : ApiClient.Server) (now amount : UInt64) :
    Error → Prop
  | zero (h : amount = 0) : BetStopped s server now amount (.validation .invalidAmount)
  | asking {e : Error} (hpos : amount ≠ 0) (h : s.api.ask server (.invoice amount) = .error e) :
    BetStopped s server now amount e
  | refused {reply : InvoiceReply} {e : Error} (hpos : amount ≠ 0)
    (hasked : s.api.ask server (.invoice amount) = .ok reply)
    (h : Refused reply.invoice s.config.bolt11Prefix (some amount) none now e) :
    BetStopped s server now amount e

/-- What a bet does that sends these requests and ends so: it asks once, for exactly the amount, and
    is placed exactly if the reply passes; then it waits for its payment, and else nothing
    changes. -/
structure BetGated (s : Session Tag) (server : ApiClient.Server) (now amount : UInt64)
    (sent : List Request) (ended : Session Tag × Except Error PendingBet) : Prop where
  zero : amount = 0 → sent = [] ∧ ended.2 = .error (.validation .invalidAmount)
  asked : amount ≠ 0 → s.api.CanSend → ∃ get, sent = [get] ∧ s.AsksInvoice amount get
  kept : ¬ s.api.CanSend → sent = []
  placed : ∀ bet, ended.2 = .ok bet ↔
    ∃ get, sent = [get] ∧ BetPasses s.config now amount (server get) bet
  told : ∀ bet, ended.2 = .ok bet → bet.invoice.amountSat = amount ∧
    ∃ d, DecodedInvoice.decode (trim bet.request) = .ok d ∧
      bet.invoice.paymentHash = d.paymentHash
  /-- There is one more waiter, for the payment of the bet. -/
  waits : ∀ bet, ended.2 = .ok bet → ended.1 = s.track .invoices bet.paymentId ∧
    ended.1.trackers.invoices.waiters =
      s.trackers.invoices.waiters ++ [.pending bet.paymentId] ∧
    ended.1.trackers.payments = s.trackers.payments
  unchanged : ∀ e, ended.2 = .error e → ended.1 = s
  fails : ∀ e, ended.2 = .error e ↔ s.BetStopped server now amount e

variable {s : Session Tag} {server : ApiClient.Server} {now amount : UInt64}

theorem serveBet_ended (n : Nat) (result : Except Error PendingBet) :
    serveBet server now n s (.ended result) = ([], s, .ended result) := by
  cases n <;> rfl

theorem ne_of_requestInvoice {flight : Flight InvoiceReply}
    (h : s.requestInvoice amount = .ok flight) : amount ≠ 0 := by
  intro hzero
  rw [requestInvoice, if_pos hzero] at h
  cases h

theorem requestInvoice_ne (s : Session Tag) (h : amount ≠ 0) :
    s.requestInvoice amount = s.api.launch (.invoice amount) := if_neg h

theorem placeBet_zero (s : Session Tag) (server : ApiClient.Server) (now : UInt64) :
    s.placeBet server now 0 = (s, .error (.validation .invalidAmount)) := rfl

theorem placeBet_ne (s : Session Tag) (server : ApiClient.Server) (now : UInt64)
    (h : amount ≠ 0) :
    s.placeBet server now amount =
      s.endBet now amount (s.api.ask server (.invoice amount)) := by
  rw [placeBet, s.requestInvoice_ne h, ApiClient.ask]
  cases s.api.launch (.invoice amount) <;> rfl

theorem sentByBet_of_error {e : Error} (h : s.requestInvoice amount = .error e) :
    s.sentByBet server now amount = [] := by
  rw [sentByBet, beginBet, h]
  rfl

theorem sentByBet_of_ok {flight : Flight InvoiceReply} (h : s.requestInvoice amount = .ok flight) :
    s.sentByBet server now amount = [flight.request] := by
  rw [sentByBet, beginBet, h]
  rfl

/-- **Step by step, `serveBet` does what `placeBet` does**, with one request at most. -/
theorem serveBet_placeBet (s : Session Tag) (server : ApiClient.Server) (now amount : UInt64)
    (n : Nat) :
    serveBet server now (n + 1) s (s.beginBet amount) =
      (s.sentByBet server now amount, (s.placeBet server now amount).1,
        .ended (s.placeBet server now amount).2) := by
  unfold sentByBet placeBet beginBet
  cases s.requestInvoice amount with
  | error e => simp only [serveBet_ended]
  | ok flight =>
    simp only [serveBet, BetStep.request?, resumeBet, ApiClient.poll_some, serveBet_ended]

theorem exists_launch_invoice_iff (s : Session Tag) (amount : UInt64) :
    (∃ flight, s.api.launch (.invoice amount) = .ok flight) ↔ s.api.CanSend := by
  constructor
  · rintro ⟨flight, h⟩
    exact (ApiClient.launch_eq_ok_iff.1 h).1
  · intro h
    obtain ⟨url, -, hlaunch⟩ := h.exists_launch (.invoice amount)
    exact ⟨_, hlaunch⟩

theorem asksInvoice_of_launch {flight : Flight InvoiceReply}
    (h : s.api.launch (.invoice amount) = .ok flight) : s.AsksInvoice amount flight.request := by
  obtain ⟨-, url, hurl, rfl⟩ := ApiClient.launch_eq_ok_iff.1 h
  refine ⟨rfl, hurl, ⟨_, ApiClient.urlOf_query hurl (List.cons_ne_nil _ _), ?_⟩, rfl⟩
  rw [String.toList_ofList, Form.read_write]
  rfl

theorem placeBet_eq_error_iff {e : Error} :
    (s.placeBet server now amount).2 = .error e ↔ s.BetStopped server now amount e := by
  have hstopped {e : Error} (h : s.BetStopped server now amount e) :
      (s.placeBet server now amount).2 = .error e := by
    cases h with
    | zero h => rw [h]; rfl
    | asking hpos h => rw [s.placeBet_ne server now hpos, h]; rfl
    | @refused reply e hpos hasked h =>
      rw [s.placeBet_ne server now hpos, hasked, endBet]
      simp only [Except.bind, acceptBet_of_refused h]
  refine ⟨fun h => ?_, hstopped⟩
  have hone {e' : Error} (h' : s.BetStopped server now amount e') :
      s.BetStopped server now amount e := by
    cases (hstopped h').symm.trans h
    exact h'
  by_cases hzero : amount = 0
  · exact hone (.zero hzero)
  cases hasked : s.api.ask server (.invoice amount) with
  | error e' => exact hone (.asking hzero hasked)
  | ok reply =>
    rcases s.acceptBet_cases now amount reply with ⟨bet, hbet⟩ | ⟨e', he'⟩
    · rw [s.placeBet_ne server now hzero, hasked, endBet] at h
      simp only [Except.bind, hbet] at h
      cases h
    · exact hone (.refused hzero hasked he')

theorem placeBet_cases (s : Session Tag) (server : ApiClient.Server) (now amount : UInt64) :
    (∃ bet, s.placeBet server now amount = (s.track .invoices bet.paymentId, .ok bet)) ∨
      ∃ e, s.placeBet server now amount = (s, .error e) := by
  by_cases hzero : amount = 0
  · rw [hzero, placeBet_zero]
    exact .inr ⟨_, rfl⟩
  · rw [s.placeBet_ne server now hzero]
    exact s.endBet_cases now amount (s.api.ask server (.invoice amount))

theorem placeBet_eq_ok_iff (hsound : s.api.signal.Sound) {bet : PendingBet} :
    (s.placeBet server now amount).2 = .ok bet ↔ ∃ get, s.sentByBet server now amount = [get] ∧
      BetPasses s.config now amount (server get) bet := by
  cases hrequest : s.requestInvoice amount with
  | error e =>
    have hplaced : s.placeBet server now amount = (s, .error e) := by rw [placeBet, hrequest]
    rw [hplaced, sentByBet_of_error hrequest]
    constructor
    · intro h
      cases h
    · rintro ⟨get, h, -⟩
      cases h
  | ok flight =>
    have hpos := ne_of_requestInvoice hrequest
    have hlaunch := (s.requestInvoice_ne hpos).symm.trans hrequest
    rw [s.placeBet_ne server now hpos, ApiClient.ask_eq hsound hlaunch, endBet_ok_iff,
      sentByBet_of_ok hrequest]
    simp only [List.cons.injEq, and_true, exists_eq_left']

/-- **`BetGated` holds of every bet** whose signal has not been given. -/
theorem betGated (hsound : s.api.signal.Sound) :
    s.BetGated server now amount (s.sentByBet server now amount)
      (s.placeBet server now amount) where
  zero h := by
    subst h
    exact ⟨rfl, rfl⟩
  asked hpos hsend := by
    obtain ⟨flight, hlaunch⟩ := (s.exists_launch_invoice_iff amount).2 hsend
    exact ⟨flight.request, sentByBet_of_ok ((requestInvoice_ne s hpos).trans hlaunch),
      asksInvoice_of_launch hlaunch⟩
  kept hkept := by
    cases hrequest : s.requestInvoice amount with
    | error e => exact sentByBet_of_error hrequest
    | ok flight =>
      rw [s.requestInvoice_ne (ne_of_requestInvoice hrequest)] at hrequest
      exact absurd ((s.exists_launch_invoice_iff amount).1 ⟨flight, hrequest⟩) hkept
  placed _ := placeBet_eq_ok_iff hsound
  told bet h := by
    obtain ⟨get, -, hpasses⟩ := (placeBet_eq_ok_iff hsound).1 h
    exact hpasses.invoice
  waits bet h := by
    rcases s.placeBet_cases server now amount with ⟨bet', hended⟩ | ⟨e, hended⟩ <;>
      rw [hended] at h <;> cases h
    rw [hended]
    exact ⟨rfl, rfl, rfl⟩
  unchanged e h := by
    rcases s.placeBet_cases server now amount with ⟨bet, hended⟩ | ⟨e', hended⟩ <;>
      rw [hended] at h <;> cases h
    rw [hended]
  fails _ := placeBet_eq_error_iff

end Session

namespace SessionCourse

/-- **`placeBet` asks the server once, if the client can send, and is placed exactly if the reply
    passes** (`BetGated`), in a session after all moves. A bet that is under way goes on by the same
    rule (`BetResumed`). -/
theorem placeBet_gate [DecidableEq Tag] (config : Config) (identity : Identity) (apiUrl : Url)
    (publicKey : String) (userAgent : Option String) (before : List ClientMove)
    (moves : List (SessionMove Tag)) (server : ApiClient.Server) (now amount : UInt64) :
    let client := ((ClientCourse.start apiUrl publicKey userAgent).run before).client
    let s := ((start config identity client).run moves).session
    (∀ n, Session.serveBet server now (n + 1) s (s.beginBet amount) =
      (s.sentByBet server now amount, (s.placeBet server now amount).1,
        .ended (s.placeBet server now amount).2)) ∧
      s.BetGated server now amount (s.sentByBet server now amount)
        (s.placeBet server now amount) ∧
      ∀ flight ready,
        s.BetResumed now amount flight ready (s.resumeBet now ready (.asking amount flight)) := by
  intro client s
  have hclient : client.signal.Sound := ClientCourse.run_sound AbortSignal.sound_fresh before
  exact ⟨s.serveBet_placeBet server now amount, Session.betGated (run_sound hclient moves),
    s.resumeBet_gate now amount⟩

/-- A player whose public key holds a line feed sends nothing. -/
theorem placeBet_lineFeed_silent :
    let s := (start WithdrawalCourse.mainnetConfig ⟨"", "a\nb", ""⟩
      WithdrawalCourse.usualClient : SessionCourse Unit).session
    (5 : UInt64) ≠ 0 ∧ ∀ (server : ApiClient.Server) (now : UInt64),
      s.sentByBet server now 5 = [] ∧
        s.placeBet server now 5 = (s, .error (.network .send)) := by
  intro s
  refine ⟨by decide, fun server now => ?_⟩
  have hrequest : s.requestInvoice 5 = .error (.network .send) := by decide +kernel
  exact ⟨Session.sentByBet_of_error hrequest, by rw [Session.placeBet, hrequest]⟩

end SessionCourse
end LightningLottery
