/-
  How the payment of a withdrawal settles, whatever happens meanwhile.

  A withdrawal waits for its payment from the moment when it takes in the reply to its payout. The
  event stream is another channel, and may tell of the payment before.

  * `WithdrawalCourse`, `WithdrawalMove`: a withdrawal under way, and what can happen to it.
  * `run_waiters`: a waiter hears all that its channel is told from then on, and nothing else.
  * `exists_resumed`: a withdrawal that was accepted has begun to wait at a move of its own.
  * `settled_by_first_heard_after`: it settles by the first end of its payment that is told after
    that move, and by none that was told before.
-/
import LightningLottery.Proofs.Session.Hearing
import LightningLottery.Session.Withdrawal

namespace LightningLottery

/-! ## Withdrawals under way -/

/-- A withdrawal under way. -/
structure WithdrawalCourse (Tag : Type) where
  session : Session Tag
  step : WithdrawalStep
  /-- What has become of the request that is out. -/
  ready : Option Exchange

/-- What can happen while a withdrawal is under way, in any order. The session is not closed, and
    the listeners of its payments stay. -/
inductive WithdrawalMove (Tag : Type) where
  /-- The server has taken in the request that is out, and this becomes of it. -/
  | answered (exchange : Exchange)
  /-- The withdrawal goes on with what has become of its request, at this time. -/
  | resumed (now : UInt64)
  /-- Something arrives at the event stream. -/
  | arrived (arrival : Arrival)
  /-- Another bet or withdrawal begins to wait for its payment. -/
  | tracked (channel : PaymentChannel) (id : PaymentId)
  /-- The owner listens to an event, with payloads as they are or read as those of a kind. -/
  | subscribed (event : String) (kind : Option EventType) (tag : Tag)
  /-- The owner ends a subscription, if it is one of its own. -/
  | unsubscribed (id : Nat)
  /-- The session switches to another identity. -/
  | switched (identity : Identity) (storage : Storage)

namespace WithdrawalCourse

variable {Tag : Type}

/-- What a move makes of a withdrawal. A request is answered once. -/
def next (order : WithdrawalOrder) (c : WithdrawalCourse Tag) :
    WithdrawalMove Tag → WithdrawalCourse Tag
  | .answered exchange => { c with ready := some (c.ready.getD exchange) }
  | .resumed now =>
    let (session, step) := c.session.resumeWithdrawal now order c.ready c.step
    ⟨session, step, none⟩
  | .arrived arrival => { c with session := (c.session.arrive arrival).1 }
  | .tracked channel id => { c with session := c.session.track channel id }
  | .subscribed event kind tag => { c with session := c.session.subscribe event kind tag }
  | .unsubscribed id => { c with session := c.session.unsubscribe id }
  | .switched identity storage =>
    { c with session := (c.session.replaceIdentity identity storage).1.1 }

/-- What many moves make of a withdrawal. -/
def run (order : WithdrawalOrder) (c : WithdrawalCourse Tag) (moves : List (WithdrawalMove Tag)) :
    WithdrawalCourse Tag := moves.foldl (next order) c

/-- The end of a payment that a move tells to those who wait for withdrawals. -/
def heard (c : WithdrawalCourse Tag) : WithdrawalMove Tag → Option PaymentOutcome
  | .arrived arrival => c.session.heard .payments arrival
  | _ => none

/-- All ends of payments that moves tell them, the first first. -/
def heardAll (order : WithdrawalOrder) (c : WithdrawalCourse Tag) :
    List (WithdrawalMove Tag) → List PaymentOutcome
  | [] => []
  | move :: moves => (c.heard move).toList ++ (c.next order move).heardAll order moves

/-- All who have waited for withdrawals, the first first. -/
def waiters (c : WithdrawalCourse Tag) : List Waiter := c.session.trackers.payments.waiters

/-- The withdrawal has ended, well or not. -/
def Ended (c : WithdrawalCourse Tag) : Prop := ∃ result, c.step = .ended result

end WithdrawalCourse

/-! ## Single moves -/

namespace Session

variable {Tag : Type}

theorem resumeWithdrawal_session (s : Session Tag) (now : UInt64) (order : WithdrawalOrder)
    (ready : Option Exchange) (step : WithdrawalStep) :
    (s.resumeWithdrawal now order ready step).1 = s ∨
      ∃ id, (s.resumeWithdrawal now order ready step).1 = s.track .payments id := by
  cases step with
  | askingPrizes flight =>
    simp only [resumeWithdrawal]
    split
    · exact Or.inl rfl
    · split <;> exact Or.inl rfl
  | askingPayout invoice flight =>
    simp only [resumeWithdrawal]
    split
    · exact Or.inl rfl
    · next result _ =>
      cases result with
      | ok reply => exact Or.inr ⟨reply.paymentId, rfl⟩
      | error e => exact Or.inl rfl
  | ended result => exact Or.inl rfl

/-- **A withdrawal ends with `.ok` only by the reply to its payout**, and waits for the payment of
    that reply. -/
theorem resumeWithdrawal_ok {s : Session Tag} {now : UInt64} {order : WithdrawalOrder}
    {ready : Option Exchange} {step : WithdrawalStep} {w : PendingWithdrawal}
    (hn : ∀ result, step ≠ .ended result)
    (h : (s.resumeWithdrawal now order ready step).2 = .ended (.ok w)) :
    (s.resumeWithdrawal now order ready step).1 = s.track .payments w.paymentId := by
  cases step with
  | askingPrizes flight =>
    simp only [resumeWithdrawal] at h
    split at h
    · cases h
    · split at h <;> cases h
  | askingPayout invoice flight =>
    simp only [resumeWithdrawal] at h ⊢
    split at h
    · cases h
    · next result _ =>
      cases result with
      | ok reply => cases h; rfl
      | error e => cases h
  | ended result => exact absurd rfl (hn result)

end Session

namespace WithdrawalCourse

variable {Tag : Type} (order : WithdrawalOrder)

theorem next_resumed (c : WithdrawalCourse Tag) (now : UInt64) :
    c.next order (.resumed now) =
      ⟨(c.session.resumeWithdrawal now order c.ready c.step).1,
        (c.session.resumeWithdrawal now order c.ready c.step).2, none⟩ := rfl

theorem next_hears {c : WithdrawalCourse Tag} (h : c.session.Hears) (move : WithdrawalMove Tag) :
    (c.next order move).session.Hears := by
  cases move with
  | answered exchange => exact h
  | resumed now =>
    rw [next_resumed]
    rcases c.session.resumeWithdrawal_session now order c.ready c.step with hs | ⟨id, hs⟩
    · simp only [hs, h]
    · simp only [hs, h.track]
  | arrived arrival => exact h.arrive arrival
  | tracked channel id => exact h.track channel id
  | subscribed event kind tag => exact h.subscribe event kind tag
  | unsubscribed id => exact h.unsubscribe id
  | switched identity storage => exact h.replaceIdentity identity storage

theorem track_waiters (s : Session Tag) (channel : PaymentChannel) (id : PaymentId) :
    ∃ more, (s.track channel id).trackers.payments.waiters =
      s.trackers.payments.waiters ++ more := by
  cases channel with
  | invoices => exact ⟨[], (List.append_nil _).symm⟩
  | payments => exact ⟨[.pending id], rfl⟩

/-- **A move tells the waiters of a channel what `Session.heard` says**, and adds new waiters behind
    them. -/
theorem next_waiters {c : WithdrawalCourse Tag} (h : c.session.Hears)
    (move : WithdrawalMove Tag) :
    ∃ more, (c.next order move).waiters =
      (c.waiters.map fun w => w.settleAll (c.heard move).toList) ++ more := by
  have hadded {ws more : List Waiter} (hws : ws = c.waiters ++ more) :
      ∃ more, ws = (c.waiters.map fun w => w.settleAll []) ++ more :=
    ⟨more, hws.trans (congrArg (· ++ more) (List.map_id _).symm)⟩
  have hkept {ws : List Waiter} (hws : ws = c.waiters) :
      ∃ more, ws = (c.waiters.map fun w => w.settleAll []) ++ more :=
    hadded (hws.trans (List.append_nil _).symm)
  cases move with
  | answered exchange => exact hkept rfl
  | resumed now =>
    rw [next_resumed]
    rcases c.session.resumeWithdrawal_session now order c.ready c.step with hs | ⟨id, hs⟩
    · rw [hs]; exact hkept rfl
    · rw [hs]
      obtain ⟨more, hmore⟩ := track_waiters c.session .payments id
      exact hadded hmore
  | arrived arrival =>
    refine ⟨[], ?_⟩
    rw [List.append_nil]
    exact (congrArg PaymentTracker.waiters (Session.arrive_trackers h arrival .payments)).trans
      (PaymentTracker.record_waiters (h.sound .payments) _)
  | tracked channel id =>
    obtain ⟨more, hmore⟩ := track_waiters c.session channel id
    exact hadded hmore
  | subscribed event kind tag => exact hkept rfl
  | unsubscribed id =>
    refine hkept ?_
    simp only [waiters, next, Session.unsubscribe]
    split <;> rfl
  | switched identity storage =>
    refine hkept ?_
    simp only [waiters, next, (c.session.replaceIdentity_events identity storage).2]

/-! ## Many moves -/

theorem run_cons (c : WithdrawalCourse Tag) (move : WithdrawalMove Tag)
    (moves : List (WithdrawalMove Tag)) :
    c.run order (move :: moves) = (c.next order move).run order moves := rfl

theorem run_append (c : WithdrawalCourse Tag) (first later : List (WithdrawalMove Tag)) :
    c.run order (first ++ later) = (c.run order first).run order later := List.foldl_append

theorem run_hears {c : WithdrawalCourse Tag} (h : c.session.Hears)
    (moves : List (WithdrawalMove Tag)) : (c.run order moves).session.Hears := by
  induction moves generalizing c with
  | nil => exact h
  | cons move moves ih => exact ih (next_hears order h move)

/-- **A waiter hears what its channel is told after it was added**, and nothing else. -/
theorem run_waiters {c : WithdrawalCourse Tag} (h : c.session.Hears) {n : Nat} {w : Waiter}
    (hw : c.waiters[n]? = some w) (moves : List (WithdrawalMove Tag)) :
    (c.run order moves).waiters[n]? = some (w.settleAll (c.heardAll order moves)) := by
  induction moves generalizing c w with
  | nil => exact hw
  | cons move moves ih =>
    obtain ⟨more, hnext⟩ := next_waiters order h move
    have hw' : (c.next order move).waiters[n]? = some (w.settleAll (c.heard move).toList) := by
      have hn : n < c.waiters.length := (List.getElem?_eq_some_iff.1 hw).1
      rw [hnext, List.getElem?_append_left (by rwa [List.length_map]), List.getElem?_map, hw]
      rfl
    rw [run_cons, ih (next_hears order h move) hw', heardAll, Waiter.settleAll_append]

theorem next_ended {c : WithdrawalCourse Tag} {result : Except Error PendingWithdrawal}
    (h : c.step = .ended result) (move : WithdrawalMove Tag) :
    (c.next order move).step = .ended result := by
  cases move with
  | resumed now => rw [next_resumed, h]; rfl
  | answered | arrived | tracked | subscribed | unsubscribed | switched => exact h

theorem run_ended {c : WithdrawalCourse Tag} {result : Except Error PendingWithdrawal}
    (h : c.step = .ended result) (moves : List (WithdrawalMove Tag)) :
    (c.run order moves).step = .ended result := by
  induction moves generalizing c with
  | nil => exact h
  | cons move moves ih => exact ih (next_ended order h move)

theorem next_step_eq (c : WithdrawalCourse Tag) {move : WithdrawalMove Tag}
    (h : ∀ now, move ≠ .resumed now) : (c.next order move).step = c.step := by
  cases move with
  | resumed now => exact absurd rfl (h now)
  | answered | arrived | tracked | subscribed | unsubscribed | switched => rfl

/-- **An accepted withdrawal was added to the tracker by one of the `resumed` moves.** -/
theorem exists_resumed {c : WithdrawalCourse Tag} (hc : ¬ c.Ended) {w : PendingWithdrawal}
    {moves : List (WithdrawalMove Tag)} (h : (c.run order moves).step = .ended (.ok w)) :
    ∃ before now after, moves = before ++ .resumed now :: after ∧
      ¬ (c.run order before).Ended ∧
      ((c.run order before).next order (.resumed now)).step = .ended (.ok w) := by
  induction moves generalizing c with
  | nil => exact absurd ⟨_, h⟩ hc
  | cons move moves ih =>
    by_cases hnext : (c.next order move).Ended
    · obtain ⟨result, hresult⟩ := hnext
      obtain rfl : result = .ok w := by
        have := (run_ended order hresult moves).symm.trans h
        cases this
        rfl
      cases hm : move with
      | resumed now => exact ⟨[], now, moves, rfl, hc, hm ▸ hresult⟩
      | answered | arrived | tracked | subscribed | unsubscribed | switched =>
        refine absurd ⟨.ok w, ?_⟩ hc
        rw [← hresult, next_step_eq order c (hm ▸ nofun)]
    · obtain ⟨before, now, after, rfl, hbefore, hended⟩ := ih hnext h
      exact ⟨move :: before, now, after, rfl, hbefore, hended⟩

theorem next_resumed_waiters {c : WithdrawalCourse Tag} (hc : ¬ c.Ended) {now : UInt64}
    {w : PendingWithdrawal} (h : (c.next order (.resumed now)).step = .ended (.ok w)) :
    (c.next order (.resumed now)).waiters = c.waiters ++ [.pending w.paymentId] := by
  have hs := Session.resumeWithdrawal_ok (fun result he => hc ⟨result, he⟩) h
  rw [next_resumed, waiters, hs]
  rfl

/-- A withdrawal was accepted at one of the moves, where it began to wait for its payment, and its
    waiter is settled by the first end of that payment that is told after that move. -/
def SettlesByFirstAfter (c : WithdrawalCourse Tag) (moves : List (WithdrawalMove Tag))
    (w : PendingWithdrawal) : Prop :=
  ∃ before now after, moves = before ++ .resumed now :: after ∧
    ¬ (c.run order before).Ended ∧
    let begun := (c.run order before).next order (.resumed now)
    begun.step = .ended (.ok w) ∧
    begun.waiters = (c.run order before).waiters ++ [.pending w.paymentId] ∧
    (c.run order moves).waiters[(c.run order before).waiters.length]? = some
      (match (begun.heardAll order after).find? fun o => o.paymentId == w.paymentId with
        | some outcome => .settled outcome
        | none => .pending w.paymentId)

/-- **A withdrawal settles by the first `payments` event of its id after the `resumed` move that
    ends it**, and by no earlier one (`SettlesByFirstAfter`). -/
theorem settled_by_first_heard_after (c : WithdrawalCourse Tag)
    (moves : List (WithdrawalMove Tag)) (w : PendingWithdrawal) (hs : c.session.Hears)
    (hc : ¬ c.Ended) (hw : (c.run order moves).step = .ended (.ok w)) :
    SettlesByFirstAfter order c moves w := by
  obtain ⟨before, now, after, rfl, hbefore, hended⟩ := exists_resumed order hc hw
  have hbegun := next_resumed_waiters order hbefore hended
  have hfirst : ((c.run order before).next order (.resumed now)).waiters[
      (c.run order before).waiters.length]? = some (.pending w.paymentId) := by
    rw [hbegun, List.getElem?_concat_length]
  refine ⟨before, now, after, rfl, hbefore, hended, hbegun, ?_⟩
  rw [run_append, run_cons, run_waiters order (next_hears order (run_hears order hs before) _)
    hfirst]
  exact congrArg some (Waiter.settleAll_pending _ _)

/-! ## A payment that is told early -/

/-- A session with a server at the usual place, whose event stream is open. -/
def openSession : Session Unit :=
  let config : Config := ⟨Settings.defaultApiUrl, .mainnet, Network.mainnet.bolt11Prefix,
    Settings.defaultStorageDir, Backoff.defaultFloor, Backoff.defaultCeiling⟩
  ((Session.ofConfig config ⟨"", "", ""⟩).arrive .opened).1

/-- What is to be withdrawn. -/
def smallOrder : WithdrawalOrder := ⟨"", 0⟩

/-- A withdrawal whose payout the server is asked for. -/
def payoutAsked : WithdrawalCourse Unit :=
  ⟨openSession,
    .askingPayout ⟨"", 100⟩ ⟨openSession.api.requestFor .post Settings.defaultApiUrl, 0⟩, none⟩

/-- The reply by which the server accepts a withdrawal, as payment 7. -/
def acceptance : Bytes := utf8 "\x7b\"status\":\"OK\",\"payment_id\":7\x7d"

/-- The server accepts the withdrawal. -/
def accepted : WithdrawalMove Unit := .answered (.answered 200 acceptance)

/-- The frame that tells that payment 7 was made. -/
def paidFrame : Frame := ⟨"payments", "\x7b\"payment_id\":7,\"status\":1\x7d", none⟩

/-- The server tells that the payment was made. -/
def paid : WithdrawalMove Unit := .arrived (.frame paidFrame)

theorem decode_acceptance : Wire.decode acceptance = .ok (⟨"OK", 7⟩ : WithdrawReply) := by
  have h : (Wire.decode acceptance).toOption = some (⟨"OK", 7⟩ : WithdrawReply) := by
    decide +kernel
  cases hd : (Wire.decode acceptance : Except Json.Fault WithdrawReply) with
  | error fault => rw [hd] at h; cases h
  | ok reply => rw [hd] at h; cases h; rfl

theorem outcome_paidFrame :
    (EventStream.payload? paidFrame).bind PaymentChannel.payments.outcome? =
      some ⟨7, .success, ""⟩ := by
  decide +kernel

theorem openSession_hears : openSession.Hears := (Session.Hears.assemble _ _ _).arrive _

theorem payoutAsked_not_ended : ¬ payoutAsked.Ended := fun ⟨_, h⟩ => nomatch h

theorem poll_acceptance {client : ApiClient} {flight : Flight WithdrawReply}
    (h : client.isAborted flight = false) :
    client.poll flight (some (.answered 200 acceptance)) = some (.ok ⟨"OK", 7⟩) := by
  have hstatus : ¬ (200 : UInt16) = tooManyRequests ∧ ¬ (200 : UInt16) = notFoundStatus ∧
      ¬ (200 : UInt16) = noContent ∧ isSuccess 200 = true := by
    decide
  obtain ⟨h429, h404, h204, hsuccess⟩ := hstatus
  simp only [ApiClient.poll, ApiClient.land, h, Bool.false_eq_true, if_false, Option.map_some,
    Exchange.result, h429, h404, h204, hsuccess, Bool.not_true, decode_acceptance]
  rfl

/-- A reply that accepts the withdrawal ends it, whatever arrives before and happens later. -/
theorem step_accepted {session : Session Unit} {invoice : Invoice}
    {flight : Flight WithdrawReply} (h : session.api.isAborted flight = false) (arrival : Arrival)
    (now : UInt64) (later : List (WithdrawalMove Unit)) :
    (run order ⟨session, .askingPayout invoice flight, none⟩
      (accepted :: .arrived arrival :: .resumed now :: later)).step =
        .ended (.ok ⟨invoice, "OK", 7⟩) := by
  have hpoll : (session.arrive arrival).1.api.poll flight (some (.answered 200 acceptance)) =
      some (.ok ⟨"OK", 7⟩) := poll_acceptance h
  have hresumed : (next order ⟨(session.arrive arrival).1, .askingPayout invoice flight,
      some (.answered 200 acceptance)⟩ (.resumed now)).step = .ended (.ok ⟨invoice, "OK", 7⟩) := by
    rw [next_resumed]
    simp only [Session.resumeWithdrawal, hpoll, Session.endWithdrawal]
  exact run_ended order hresumed later

/-- An event before the `resumed` move that takes in the reply is told to those who wait by then.
    The withdrawal itself is added afterwards, and is pending. -/
theorem accepted_waiters {session : Session Unit} {invoice : Invoice}
    {flight : Flight WithdrawReply} (h : session.api.isAborted flight = false)
    (hs : session.Hears) (hnone : session.trackers.get .payments = .empty) (arrival : Arrival)
    (now : UInt64) :
    (run order ⟨session, .askingPayout invoice flight, none⟩
      [accepted, .arrived arrival, .resumed now]).waiters = [.pending 7] := by
  let c := run order ⟨session, .askingPayout invoice flight, none⟩ [accepted, .arrived arrival]
  have hwaiters : c.waiters = [] := by
    have hrecord := Session.arrive_trackers hs arrival .payments
    rw [hnone] at hrecord
    refine (congrArg PaymentTracker.waiters hrecord).trans ?_
    cases session.heard .payments arrival <;> rfl
  have hasking : c.step = .askingPayout invoice flight := rfl
  have hended : (c.next order (.resumed now)).step = .ended (.ok ⟨invoice, "OK", 7⟩) :=
    step_accepted order h arrival now []
  have hbegun := next_resumed_waiters order
    (fun ⟨_, he⟩ => nomatch hasking.symm.trans he) hended
  rw [hwaiters] at hbegun
  exact hbegun

theorem openSession_not_aborted (flight : Flight WithdrawReply) :
    openSession.api.isAborted flight = false := rfl

theorem openSession_empty : openSession.trackers.get .payments = .empty := rfl

theorem heard_paidFrame :
    openSession.heard .payments (.frame paidFrame) = some ⟨7, .success, ""⟩ := by
  have hlive : (openSession.events.isLive &&
      paidFrame.event == PaymentChannel.payments.event.name) = true := by
    decide
  rw [Session.heard, if_pos hlive, outcome_paidFrame]

/-- The payment is told before the withdrawal waits for it, and again after. -/
theorem settles_by_second :
    openSession.Hears ∧ ¬ payoutAsked.Ended ∧
      (payoutAsked.run smallOrder [accepted, paid, .resumed 0, paid]).step =
        .ended (.ok ⟨⟨"", 100⟩, "OK", 7⟩) ∧
      SettlesByFirstAfter smallOrder payoutAsked [accepted, paid, .resumed 0, paid]
        ⟨⟨"", 100⟩, "OK", 7⟩ := by
  have hended : (payoutAsked.run smallOrder [accepted, paid, .resumed 0, paid]).step =
      .ended (.ok ⟨⟨"", 100⟩, "OK", 7⟩) :=
    step_accepted smallOrder (openSession_not_aborted _) (.frame paidFrame) 0 [paid]
  exact ⟨openSession_hears, payoutAsked_not_ended, hended,
    settled_by_first_heard_after _ _ _ _ openSession_hears payoutAsked_not_ended hended⟩

/-- A payment that is told after the server has accepted the withdrawal, but before its reply is
    taken in, does not settle it. -/
theorem not_settled_by_early :
    ¬ ∀ (order : WithdrawalOrder) (c : WithdrawalCourse Unit) (exchange : Exchange)
      (moves : List (WithdrawalMove Unit)) (w : PendingWithdrawal) (outcome : PaymentOutcome),
      c.session.Hears → (∃ invoice flight, c.step = .askingPayout invoice flight) →
      (c.run order (.answered exchange :: moves)).step = .ended (.ok w) →
      outcome ∈ (c.next order (.answered exchange)).heardAll order moves →
      outcome.paymentId = w.paymentId →
      .settled outcome ∈ (c.run order (.answered exchange :: moves)).waiters := by
  intro h
  have hended : (payoutAsked.run smallOrder [accepted, paid, .resumed 0]).step =
      .ended (.ok ⟨⟨"", 100⟩, "OK", 7⟩) :=
    step_accepted smallOrder (openSession_not_aborted _) (.frame paidFrame) 0 []
  have hheard : (⟨7, .success, ""⟩ : PaymentOutcome) ∈
      (payoutAsked.next smallOrder accepted).heardAll smallOrder [paid, .resumed 0] := by
    have htold : (payoutAsked.next smallOrder accepted).heard paid = some ⟨7, .success, ""⟩ :=
      heard_paidFrame
    rw [heardAll, htold]
    exact List.mem_cons_self
  have hwaiters : (payoutAsked.run smallOrder [accepted, paid, .resumed 0]).waiters =
      [.pending 7] :=
    accepted_waiters smallOrder (openSession_not_aborted _) openSession_hears openSession_empty
      (.frame paidFrame) 0
  have hsettled : .settled ⟨7, .success, ""⟩ ∈
      (payoutAsked.run smallOrder [accepted, paid, .resumed 0]).waiters :=
    h smallOrder payoutAsked (.answered 200 acceptance) [paid, .resumed 0] ⟨⟨"", 100⟩, "OK", 7⟩
      ⟨7, .success, ""⟩ openSession_hears ⟨_, _, rfl⟩ hended hheard rfl
  rw [hwaiters] at hsettled
  cases List.mem_singleton.1 hsettled

end WithdrawalCourse
end LightningLottery
