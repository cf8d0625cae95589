/-
  When a withdrawal asks for its payout, and what comes of it.

  * `Session.serve`: a withdrawal with a server that takes no time, request by request.
  * `Session.serve_withdraw`: it sends these requests and ends as `Session.withdraw` does.
  * `Exchange.Holds`: a whole reply of success, with a body that is read.
  * `Session.AsksPrizes`, `Session.PostsPayout`: the two requests of a withdrawal and their pages.
  * `Session.Withdraws`: the ways of a withdrawal, one for each stage at which it can end.
  * `Session.Gated`: it posts exactly if all checks pass, and a waiter is added exactly if the server
    accepts the payout.
  * `SessionCourse.withdraw_gate`: `Gated` holds of a session in any state.
-/
import LightningLottery.Proofs.Api.Calls
import LightningLottery.Proofs.Session.Course
import LightningLottery.Proofs.Session.Payout

namespace LightningLottery

/-! ## Replies -/

/-- A whole reply of success, with a body that is read as `reply`. -/
def Exchange.Holds {α : Type} [Wire α] (exchange : Exchange) (reply : α) : Prop :=
  ∃ status body, exchange = .answered status body ∧ isSuccess status = true ∧
    status ≠ noContent ∧ Wire.decode body = .ok reply

namespace Exchange.Holds

variable {α : Type} [Wire α] {exchange : Exchange} {a b : α}

theorem unique (ha : exchange.Holds a) (hb : exchange.Holds b) : a = b := by
  obtain ⟨status, body, rfl, -, -, ha⟩ := ha
  obtain ⟨_, _, h, -, -, hb⟩ := hb
  cases h
  exact Except.ok.inj (ha.symm.trans hb)

end Exchange.Holds

theorem Exchange.not_holds {α : Type} [Wire α] {exchange : Exchange} {url : Url} {e : Error}
    (h : exchange.result α url = .error e) (a : α) : ¬ exchange.Holds a := by
  intro hholds
  cases h.symm.trans (result_eq_ok_iff.2 hholds)

/-! ## The requests of a withdrawal -/

/-- The request that a withdrawal has out. -/
def WithdrawalStep.request? : WithdrawalStep → Option Request
  | .askingPrizes flight => some flight.request
  | .askingPayout _ flight => some flight.request
  | .ended _ => none

namespace Session

variable {Tag : Type}

/-- Lets a withdrawal go on with a server that takes no time, for at most `n` requests: those that
    are sent, and how far it gets. -/
def serve (server : ApiClient.Server) (now : UInt64) (order : WithdrawalOrder) :
    Nat → Session Tag → WithdrawalStep → List Request × Session Tag × WithdrawalStep
  | 0, s, step => ([], s, step)
  | n + 1, s, step =>
    match step.request? with
    | none => ([], s, step)
    | some request =>
      let (after, next) := s.resumeWithdrawal now order (some (server request)) step
      let (sent, last) := serve server now order n after next
      (request :: sent, last)

/-- The requests that a withdrawal sends; there are two at most. -/
def sentByWithdraw (s : Session Tag) (server : ApiClient.Server) (now : UInt64)
    (order : WithdrawalOrder) : List Request :=
  (serve server now order 2 s s.beginWithdrawal).1

section Serving

variable (s : Session Tag) (server : ApiClient.Server) (now : UInt64) (order : WithdrawalOrder)

theorem serve_ended (n : Nat) (result : Except Error PendingWithdrawal) :
    serve server now order n s (.ended result) = ([], s, .ended result) := by
  cases n <;> rfl

theorem serve_payout (n : Nat) (invoice : Invoice) (flight : Flight WithdrawReply) :
    serve server now order (n + 1) s (.askingPayout invoice flight) =
      let ended := s.endWithdrawal invoice (s.api.land flight (server flight.request))
      ([flight.request], ended.1, .ended ended.2) := by
  simp only [serve, WithdrawalStep.request?, resumeWithdrawal, ApiClient.poll_some, serve_ended]

theorem serve_prizes (n : Nat) (flight : Flight PrizesReply) :
    serve server now order (n + 1) s (.askingPrizes flight) =
      match (s.api.land flight (server flight.request)).bind (s.requestPayout now order) with
      | .ok (invoice, payout) =>
        let rest := serve server now order n s (.askingPayout invoice payout)
        (flight.request :: rest.1, rest.2)
      | .error e => ([flight.request], s, .ended (.error e)) := by
  simp only [serve, WithdrawalStep.request?, resumeWithdrawal, ApiClient.poll_some]
  generalize (s.api.land flight (server flight.request)).bind (s.requestPayout now order) = asked
  rcases asked with e | ⟨invoice, payout⟩
  · simp only [serve_ended]
  · rfl

/-- **Request by request, a withdrawal ends as it does with all steps at once.** -/
theorem serve_withdraw :
    serve server now order 2 s s.beginWithdrawal =
      (s.sentByWithdraw server now order, (s.withdraw server now order).1,
        .ended (s.withdraw server now order).2) := by
  refine Prod.ext rfl ?_
  simp only [beginWithdrawal, withdraw, ApiClient.ask]
  cases hlaunch : s.api.launch .prizes with
  | error e => rfl
  | ok flight =>
    simp only [serve_prizes, bind, Except.bind]
    cases s.api.land flight (server flight.request) with
    | error e => rfl
    | ok reply =>
      simp only []
      cases s.requestPayout now order reply with
      | error e => rfl
      | ok asked => simp only [serve_payout]

end Serving

/-! ## The two requests -/

/-- A request for the prizes: `GET` of the page `prizes`, in the name of the session. -/
structure AsksPrizes (s : Session Tag) (get : Request) : Prop where
  method : get.method = .get
  page : get.url.IsPageOf s.api.base "prizes"
  query : get.url.query = none
  authorization : get.authorization = s.api.authorization

/-- A request for a payout: `POST` of the page `withdraw`, in the name of the session, with the
    signature of the identity over its own public key, the payment request, that key and the fee. -/
structure PostsPayout (s : Session Tag) (order : WithdrawalOrder) (post : Request) : Prop where
  method : post.method = .post
  page : post.url.IsPageOf s.api.base "withdraw"
  query : ∃ secret key query, decodeHexKey s.identity.privateKey = .ok secret ∧
    decodeHexKey s.identity.publicKey = .ok key ∧ post.url.query = some query ∧
    Form.read query.toList = [("k1", (KeyPair.mk secret).sign key), ("pr", order.request),
      ("pubkey", s.identity.publicKey), ("fee", decimalText order.fee.toNat)]
  authorization : post.authorization = s.api.authorization

section Requests

variable {s : Session Tag} {order : WithdrawalOrder} {apiUrl : Url}

theorem asksPrizes_of_launch (hbase : s.api.base = apiUrl.apiBase) {flight : Flight PrizesReply}
    (h : s.api.launch .prizes = .ok flight) : s.AsksPrizes flight.request := by
  obtain ⟨-, url, hurl, rfl⟩ := ApiClient.launch_eq_ok_iff.1 h
  exact ⟨rfl, ApiClient.urlOf_isPageOf hbase rfl hurl, ApiClient.urlOf_query_none hurl rfl, rfl⟩

theorem AsksPayout.posts (hbase : s.api.base = apiUrl.apiBase) {post : Request}
    (h : s.AsksPayout order post) : s.PostsPayout order post := by
  obtain ⟨secret, key, url, hsecret, hkey, hurl, rfl⟩ := h
  refine ⟨rfl, ApiClient.urlOf_isPageOf hbase rfl hurl, ⟨secret, key, _, hsecret, hkey,
    ApiClient.urlOf_query hurl (List.cons_ne_nil _ _), ?_⟩, rfl⟩
  rw [String.toList_ofList, Form.read_write]
  rfl

end Requests

/-! ## The ways of a withdrawal -/

/-- How a withdrawal goes: the requests that it sends, and how it ends. Every way but the last ends
    with an error, that of the first thing that fails, and leaves the session as it is. -/
inductive Withdraws (s : Session Tag) (server : ApiClient.Server) (now : UInt64)
    (order : WithdrawalOrder) : List Request → Session Tag × Except Error PendingWithdrawal → Prop
  /-- The prizes cannot be asked for. -/
  | kept {e : Error} (hkept : ¬ s.api.CanSend) (h : s.api.launch .prizes = .error e) :
    Withdraws s server now order [] (s, .error e)
  /-- The reply tells no prizes. -/
  | untold {get : Request} {e : Error} (hget : s.AsksPrizes get)
    (hnone : ∀ reply : PrizesReply, ¬ (server get).Holds reply)
    (h : (server get).result PrizesReply get.url = .error e) :
    Withdraws s server now order [get] (s, .error e)
  /-- A check fails. -/
  | refused {get : Request} {reply : PrizesReply} {e : Error} (hget : s.AsksPrizes get)
    (htold : (server get).Holds reply) (h : s.PayoutRefused now order reply.prizes e) :
    Withdraws s server now order [get] (s, .error e)
  /-- All checks pass, and the server does not accept the payout. -/
  | unpaid {get post : Request} {reply : PrizesReply} {invoice : Invoice} {e : Error}
    (hget : s.AsksPrizes get) (htold : (server get).Holds reply)
    (hdue : s.PayoutDue now order reply.prizes invoice) (hpost : s.PostsPayout order post)
    (hnone : ∀ last : WithdrawReply, ¬ (server post).Holds last)
    (h : (server post).result WithdrawReply post.url = .error e) :
    Withdraws s server now order [get, post] (s, .error e)
  /-- The server accepts the payout. -/
  | accepted {get post : Request} {reply : PrizesReply} {invoice : Invoice} {last : WithdrawReply}
    (hget : s.AsksPrizes get) (htold : (server get).Holds reply)
    (hdue : s.PayoutDue now order reply.prizes invoice) (hpost : s.PostsPayout order post)
    (h : (server post).Holds last) :
    Withdraws s server now order [get, post]
      (s.track .payments last.paymentId, .ok ⟨invoice, last.status, last.paymentId⟩)

variable {s : Session Tag} {server : ApiClient.Server} {now : UInt64} {order : WithdrawalOrder}

/-- **A withdrawal goes one of these ways**, if its signal has not been given. -/
theorem withdraws {apiUrl : Url} (hbase : s.api.base = apiUrl.apiBase)
    (hsound : s.api.signal.Sound) :
    s.Withdraws server now order (s.sentByWithdraw server now order)
      (s.withdraw server now order) := by
  simp only [sentByWithdraw, withdraw, beginWithdrawal]
  cases hlaunch : s.api.launch .prizes with
  | error e =>
    have hask : s.api.ask server .prizes = .error e := by
      simp only [ApiClient.ask, hlaunch, bind, Except.bind]
    simp only [serve_ended, hask, Except.bind]
    refine .kept (fun hsend => ?_) hlaunch
    obtain ⟨url, -, hsent⟩ := hsend.exists_launch .prizes
    cases hlaunch.symm.trans hsent
  | ok get =>
    have hget := asksPrizes_of_launch hbase hlaunch
    have hask := ApiClient.ask_eq hsound hlaunch server
    have hland : s.api.land get (server get.request) =
        (server get.request).result PrizesReply get.request.url := by
      rw [← hask]
      simp only [ApiClient.ask, hlaunch, bind, Except.bind]
    simp only [serve_prizes, hask, hland]
    cases hresult : (server get.request).result PrizesReply get.request.url with
    | error e =>
      simp only [Except.bind]
      exact .untold hget (Exchange.not_holds hresult) hresult
    | ok reply =>
      have htold : (server get.request).Holds reply := Exchange.result_eq_ok_iff.1 hresult
      simp only [Except.bind]
      rcases s.due_or_refused now order reply.prizes with ⟨invoice, hdue⟩ | ⟨e, hrefused⟩
      swap
      · rw [requestPayout_of_refused hrefused]
        exact .refused hget htold hrefused
      obtain ⟨hsend, -⟩ := ApiClient.launch_eq_ok_iff.1 hlaunch
      obtain ⟨payout, hpayout, hasks, hsignal⟩ := hdue.exists_requestPayout hsend
      have hpost := hasks.posts hbase
      have hlast : s.api.land payout (server payout.request) =
          (server payout.request).result WithdrawReply payout.request.url := by
        refine ApiClient.land_of_not_aborted ?_ _
        rw [ApiClient.isAborted, hsignal, hsound.current]
      simp only [hpayout, serve_payout, hlast]
      cases hended : (server payout.request).result WithdrawReply payout.request.url with
      | error e => exact .unpaid hget htold hdue hpost (Exchange.not_holds hended) hended
      | ok last => exact .accepted hget htold hdue hpost (Exchange.result_eq_ok_iff.1 hended)

/-! ## The gate -/

/-- The server accepts a payout that is among the requests sent, as a payment with this id. -/
def PayoutAccepted (s : Session Tag) (order : WithdrawalOrder) (sent : List Request)
    (server : ApiClient.Server) (id : PaymentId) : Prop :=
  ∃ post ∈ sent, s.PostsPayout order post ∧
    ∃ reply : WithdrawReply, (server post).Holds reply ∧ reply.paymentId = id

/-- What a withdrawal does that sends these requests and ends so. -/
structure Gated (s : Session Tag) (server : ApiClient.Server) (now : UInt64)
    (order : WithdrawalOrder) (sent : List Request)
    (ended : Session Tag × Except Error PendingWithdrawal) : Prop where
  /-- Its stages in their order, each with its error. -/
  goes : s.Withdraws server now order sent ended
  /-- It posts exactly if the server tells prizes and all checks pass for them. -/
  asked : (∃ post ∈ sent, post.method = .post) ↔ ∃ get ∈ sent, s.AsksPrizes get ∧
    ∃ (reply : PrizesReply) (invoice : Invoice), (server get).Holds reply ∧
      s.PayoutDue now order reply.prizes invoice
  carries : ∀ post ∈ sent, post.method = .post → s.PostsPayout order post
  /-- A waiter is added exactly if the server accepts the payout, under the id of its reply. -/
  waits : ∀ id, ended.1.trackers.payments.waiters =
    s.trackers.payments.waiters ++ [.pending id] ↔ s.PayoutAccepted order sent server id
  tracks : ∀ id, s.PayoutAccepted order sent server id → ended.1 = s.track .payments id
  unchanged : (∀ id, ¬ s.PayoutAccepted order sent server id) →
    ended.1 = s ∧ ∃ e, ended.2 = .error e

variable {get post : Request} {reply : PrizesReply} {invoice : Invoice}

theorem waiters_ne (ws : List Waiter) (w : Waiter) : ws ≠ ws ++ [w] := by
  intro h
  have hlength := congrArg List.length h
  rw [List.length_append, List.length_singleton] at hlength
  omega

/-- A withdrawal that posts nothing is gated, if the server tells no prizes for which all checks
    pass. -/
theorem Withdraws.gated_unasked {sent : List Request} {e : Error}
    (h : s.Withdraws server now order sent (s, .error e))
    (hgets : ∀ request ∈ sent, request.method = .get)
    (hnot : ∀ get ∈ sent, ∀ (reply : PrizesReply) (invoice : Invoice), (server get).Holds reply →
      ¬ s.PayoutDue now order reply.prizes invoice) :
    s.Gated server now order sent (s, .error e) := by
  have hnone {request : Request} (hm : request ∈ sent) (hpost : request.method = .post) : False :=
    nomatch (hgets request hm).symm.trans hpost
  have hrefused (id : PaymentId) : ¬ s.PayoutAccepted order sent server id :=
    fun ⟨_, hm, hposts, _⟩ => hnone hm hposts.method
  refine ⟨h, iff_of_false ?_ ?_, fun post hm hpost => (hnone hm hpost).elim,
    fun id => iff_of_false (waiters_ne _ _) (hrefused id), fun id hid => (hrefused id hid).elim,
    fun _ => ⟨rfl, e, rfl⟩⟩
  · rintro ⟨post, hm, hpost⟩
    exact hnone hm hpost
  · rintro ⟨get, hm, -, reply, invoice, htold, hdue⟩
    exact hnot get hm reply invoice htold hdue

/-- A withdrawal that posts when a payout is due is gated, if it waits exactly for what the server
    accepts. -/
theorem Withdraws.gated_asked {ended : Session Tag × Except Error PendingWithdrawal}
    (h : s.Withdraws server now order [get, post] ended) (hget : s.AsksPrizes get)
    (htold : (server get).Holds reply) (hdue : s.PayoutDue now order reply.prizes invoice)
    (hpost : s.PostsPayout order post)
    (hended : (∀ last : WithdrawReply, ¬ (server post).Holds last) ∧
        ended.1 = s ∧ (∃ e, ended.2 = .error e) ∨
      ∃ last : WithdrawReply, (server post).Holds last ∧
        ended.1 = s.track .payments last.paymentId) :
    s.Gated server now order [get, post] ended := by
  have hmem : post ∈ [get, post] := List.mem_pair.2 (Or.inr rfl)
  have honly {request : Request} (hm : request ∈ [get, post]) (hmethod : request.method = .post) :
      request = post := by
    rcases List.mem_pair.1 hm with rfl | rfl
    · cases hget.method.symm.trans hmethod
    · rfl
  have haccepted {id : PaymentId} : s.PayoutAccepted order [get, post] server id ↔
      ∃ last : WithdrawReply, (server post).Holds last ∧ last.paymentId = id := by
    constructor
    · rintro ⟨request, hm, hposts, hlast⟩
      rwa [honly hm hposts.method] at hlast
    · exact fun hlast => ⟨post, hmem, hpost, hlast⟩
  refine ⟨h, iff_of_true ⟨post, hmem, hpost.method⟩
    ⟨get, List.mem_cons_self, hget, reply, invoice, htold, hdue⟩,
    fun request hm h => honly hm h ▸ hpost, fun id => ?_, fun id hid => ?_, fun hnone => ?_⟩
  · rw [haccepted]
    rcases hended with ⟨hnot, hsame, -⟩ | ⟨last, hlast, hsession⟩
    · rw [hsame]
      exact iff_of_false (waiters_ne _ _) fun ⟨last, hlast, _⟩ => hnot last hlast
    · rw [hsession]
      constructor
      · intro hwaiters
        have hid : Waiter.pending last.paymentId = .pending id :=
          List.singleton_inj.1 (List.append_cancel_left hwaiters)
        exact ⟨last, hlast, Waiter.pending.inj hid⟩
      · rintro ⟨last', hlast', rfl⟩
        rw [hlast.unique hlast']
        rfl
  · obtain ⟨last, hlast, rfl⟩ := haccepted.1 hid
    rcases hended with ⟨hnot, -⟩ | ⟨last', hlast', hsession⟩
    · exact (hnot last hlast).elim
    · rw [hsession, hlast'.unique hlast]
  · rcases hended with ⟨-, hsame⟩ | ⟨last, hlast, -⟩
    · exact hsame
    · exact (hnone _ (haccepted.2 ⟨last, hlast, rfl⟩)).elim

/-- **Each way of a withdrawal is gated.** -/
theorem Withdraws.gated {sent : List Request}
    {ended : Session Tag × Except Error PendingWithdrawal}
    (h : s.Withdraws server now order sent ended) : s.Gated server now order sent ended := by
  cases h with
  | kept hkept hlaunch =>
    exact gated_unasked (.kept hkept hlaunch) (List.forall_mem_nil _) (List.forall_mem_nil _)
  | @untold get e hget hnone hresult =>
    refine gated_unasked (.untold hget hnone hresult) (List.forall_mem_singleton.2 hget.method) ?_
    exact List.forall_mem_singleton.2 fun reply invoice htold => absurd htold (hnone reply)
  | @refused get reply e hget htold hrefused =>
    refine gated_unasked (.refused hget htold hrefused) (List.forall_mem_singleton.2 hget.method) ?_
    refine List.forall_mem_singleton.2 fun reply' invoice htold' hdue => ?_
    rw [htold.unique htold'] at hrefused
    exact hdue.not_refused hrefused
  | unpaid hget htold hdue hpost hnone hresult =>
    exact gated_asked (.unpaid hget htold hdue hpost hnone hresult) hget htold hdue hpost
      (Or.inl ⟨hnone, rfl, _, rfl⟩)
  | accepted hget htold hdue hpost hlast =>
    exact gated_asked (.accepted hget htold hdue hpost hlast) hget htold hdue hpost
      (Or.inr ⟨_, hlast, rfl⟩)

end Session

namespace SessionCourse

/-- **When a withdrawal posts, and what comes of it**: `Session.withdraw` sends the requests of
    `Session.serve`, and is `Session.Gated` in a session in any state, at any time and whatever the
    server replies. -/
theorem withdraw_gate [DecidableEq Tag] (config : Config) (identity : Identity) (apiUrl : Url)
    (publicKey : String) (userAgent : Option String) (before : List ClientMove)
    (moves : List (SessionMove Tag)) (server : ApiClient.Server) (now : UInt64)
    (order : WithdrawalOrder) :
    let client := ((ClientCourse.start apiUrl publicKey userAgent).run before).client
    let s := ((start config identity client).run moves).session
    s.api.base = apiUrl.apiBase ∧
      Session.serve server now order 2 s s.beginWithdrawal =
        (s.sentByWithdraw server now order, (s.withdraw server now order).1,
          .ended (s.withdraw server now order).2) ∧
      s.Gated server now order (s.sentByWithdraw server now order)
        (s.withdraw server now order) := by
  intro client s
  have hbase : s.api.base = apiUrl.apiBase :=
    (run_base _ moves).trans (ClientCourse.run_base _ before)
  have hsound : s.api.signal.Sound :=
    run_sound (ClientCourse.run_sound AbortSignal.sound_fresh before) moves
  exact ⟨hbase, s.serve_withdraw server now order, (Session.withdraws hbase hsound).gated⟩

end SessionCourse
end LightningLottery
