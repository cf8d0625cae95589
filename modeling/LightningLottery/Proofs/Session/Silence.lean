/-
  Which payments of a session can still settle.

  The payments listen to the event stream like any other listener. The owner cannot end their
  subscriptions one by one, but it can drop all listeners at once, and nothing makes the payments
  listen again.

  * `SessionCourse.Sound.run`: the payments that anyone waits for are under way.
  * `SessionCourse.settles_unless_silenced`: a frame settles all who wait for its payment, unless
    all listeners were dropped before; then it settles nobody.
-/
import LightningLottery.Proofs.Payment.History
import LightningLottery.Proofs.Session.Course

namespace LightningLottery

variable {Tag : Type}

theorem PaymentTrackers.update_sound {ts : PaymentTrackers} (h : ∀ channel, (ts.get channel).Sound)
    (channel : PaymentChannel) (move : TrackerMove) (channel' : PaymentChannel) :
    ((ts.update channel fun t => t.next move).get channel').Sound := by
  rw [get_update]
  split
  · exact (h channel').next move
  · exact h channel'

theorem Listener.receiveAll_sound {channel : PaymentChannel} (calls : List (Call (Listener Tag)))
    {ts : PaymentTrackers} (h : (ts.get channel).Sound) :
    ((receiveAll ts calls).1.get channel).Sound := by
  induction calls generalizing ts with
  | nil => exact h
  | cons call calls ih =>
    obtain ⟨l, payload⟩ := call
    rw [receiveAll_cons]
    refine ih ?_
    by_cases hl : l = tracker channel
    · subst hl
      rw [receive_tracker, if_pos rfl]
      exact h.record _
    · rw [receive_other ts hl]
      exact h

namespace SessionCourse

variable [DecidableEq Tag]

/-! ## Payments under way -/

/-- The payments that anyone waits for are under way. -/
def Sound (c : SessionCourse Tag) : Prop := ∀ channel, (c.session.trackers.get channel).Sound

theorem Sound.next {c : SessionCourse Tag} (h : c.Sound) (move : SessionMove Tag) :
    (c.next move).Sound := by
  intro channel
  cases move with
  | betResumed now ready step =>
    simp only [SessionCourse.next]
    rcases c.session.resumeBet_session now ready step with hs | ⟨id, hs⟩
    · rw [hs]; exact h channel
    · rw [hs]; exact PaymentTrackers.update_sound h .invoices (.tracked id) channel
  | withdrawalResumed now order ready step =>
    simp only [SessionCourse.next]
    rcases c.session.resumeWithdrawal_session now order ready step with hs | ⟨id, hs⟩
    · rw [hs]; exact h channel
    · rw [hs]; exact PaymentTrackers.update_sound h .payments (.tracked id) channel
  | arrived arrival => exact Listener.receiveAll_sound _ (h channel)
  | unsubscribed place =>
    simp only [SessionCourse.next]
    split <;> exact h channel
  | waiterDropped dropped n => exact PaymentTrackers.update_sound h dropped (.dropped n) channel
  | switched identity saved =>
    simp only [SessionCourse.next]
    rcases c.session.switch_cases identity saved with hs | ⟨-, -, hs⟩
    · rw [hs]; exact h channel
    · rw [hs]; exact h channel
  | closed =>
    cases channel with
    | invoices => exact (h .invoices).next .cleared
    | payments => exact (h .payments).next .cleared
  | subscribed | shared | cleared | aborted | streamClosed => exact h channel

theorem Sound.run {c : SessionCourse Tag} (h : c.Sound) (moves : List (SessionMove Tag)) :
    (c.run moves).Sound := by
  induction moves generalizing c with
  | nil => exact h
  | cons move moves ih => exact ih (h.next move)

omit [DecidableEq Tag] in
theorem start_sound (config : Config) (identity : Identity) (api : ApiClient) :
    (start config identity api : SessionCourse Tag).Sound :=
  (Session.Hears.assemble config identity api).sound

/-! ## What a frame settles -/

/-- **An arrival at a session that was not silenced** records the outcome that its channel hears. -/
theorem arrived_trackers {c : SessionCourse Tag} {silenced : Bool} (h : c.Listens silenced)
    (arrival : Arrival) (channel : PaymentChannel) :
    (c.next (.arrived arrival)).session.trackers.get channel =
      if silenced then c.session.trackers.get channel
      else (c.session.trackers.get channel).record (c.session.heard channel arrival) := by
  cases silenced with
  | true =>
    refine Session.arrive_trackers_silent (fun event hm => ?_) arrival
    cases ((h channel event).1 hm).1
  | false =>
    exact Session.arrive_trackers_listening
      (fun event => (h channel event).trans (and_iff_right rfl)) arrival

/-- **An event settles all waiters of its payment**, after all moves of a session, unless one of
    them dropped all listeners; after such a move no event changes a tracker. -/
theorem settles_unless_silenced (config : Config) (identity : Identity) (api : ApiClient)
    (moves : List (SessionMove Tag)) (arrival : Arrival) (channel : PaymentChannel)
    (outcome : PaymentOutcome)
    (hheard : ((start config identity api).run moves).session.heard channel arrival =
      some outcome) :
    let before := (start config identity api).run moves
    let after := (start config identity api).run (moves ++ [.arrived arrival])
    (moves.any SessionMove.silences = false →
      (after.session.trackers.get channel).waiters =
        (before.session.trackers.get channel).waiters.map (Waiter.settle outcome) ∧
      .pending outcome.paymentId ∉ (after.session.trackers.get channel).waiters ∧
      outcome.paymentId ∉ (after.session.trackers.get channel).tracked) ∧
    (moves.any SessionMove.silences = true →
      ∀ channel', after.session.trackers.get channel' = before.session.trackers.get channel') := by
  have hsound := (start_sound config identity api).run moves
  have hlistens := run_listens (listens_start config identity api)
    (Apart.start config identity api) moves
  rw [Bool.false_or] at hlistens
  simp only [run_concat]
  generalize hc : (start config identity api).run moves = c at *
  refine ⟨fun hkept => ?_, fun hsilenced channel' => ?_⟩
  · have hrecord := arrived_trackers hlistens arrival channel
    rw [hkept, if_neg Bool.false_ne_true, hheard] at hrecord
    have htracked : outcome.paymentId ∉
        ((c.next (.arrived arrival)).session.trackers.get channel).tracked := by
      rw [hrecord]
      exact fun hm => (PaymentTracker.mem_observe_tracked.1 hm).2 rfl
    refine ⟨?_, fun hpending => ?_, htracked⟩
    · rw [hrecord]
      exact PaymentTracker.observe_waiters (hsound channel) outcome
    · exact htracked (hsound.next (.arrived arrival) channel _ hpending)
  · rw [arrived_trackers hlistens, hsilenced, if_pos rfl]

/-! ## A payment that is never told -/

/-- The stream opens, and the server accepts a withdrawal as payment 7. -/
def withdrawn : List (SessionMove Unit) :=
  [.arrived .opened,
    .withdrawalResumed 0 WithdrawalCourse.smallOrder
      (some (.answered 200 WithdrawalCourse.acceptance)) WithdrawalCourse.payoutAsked.step]

/-- The owner drops all listeners after that. -/
def withdrawnCleared : List (SessionMove Unit) := withdrawn ++ [.cleared]

/-- The server tells of the payment. -/
def told : Arrival := .frame WithdrawalCourse.paidFrame

theorem heard_cleared (c : SessionCourse Unit) (channel : PaymentChannel) (arrival : Arrival) :
    (c.next .cleared).session.heard channel arrival = c.session.heard channel arrival :=
  Session.heard_congr rfl channel arrival

theorem trackers_cleared (c : SessionCourse Unit) :
    (c.next .cleared).session.trackers = c.session.trackers := rfl

theorem session_run_withdrawn (c : SessionCourse Unit) :
    (c.run withdrawn).session = ((c.next (.arrived .opened)).session.resumeWithdrawal 0
      WithdrawalCourse.smallOrder (some (.answered 200 WithdrawalCourse.acceptance))
      WithdrawalCourse.payoutAsked.step).1 := rfl

section

variable (config : Config) (identity : Identity) (apiUrl : Url)

/-- A session of a client that has ended no request yet. -/
def startAt : SessionCourse Unit := start config identity (.ofUrl apiUrl)

theorem resumeWithdrawal_acceptance {session : Session Unit} {invoice : Invoice}
    {flight : Flight WithdrawReply} (h : session.api.isAborted flight = false) (now : UInt64)
    (order : WithdrawalOrder) :
    (session.resumeWithdrawal now order (some (.answered 200 WithdrawalCourse.acceptance))
      (.askingPayout invoice flight)).1 = session.track .payments 7 := by
  simp only [Session.resumeWithdrawal, WithdrawalCourse.poll_acceptance h, Session.endWithdrawal]

theorem run_withdrawn : ((startAt config identity apiUrl).run withdrawn).session =
    ((startAt config identity apiUrl).next (.arrived .opened)).session.track .payments 7 := by
  rw [session_run_withdrawn]
  exact resumeWithdrawal_acceptance rfl 0 _

theorem waiters_withdrawn :
    (((startAt config identity apiUrl).run withdrawn).session.trackers.get .payments).waiters =
      [.pending 7] := by
  rw [run_withdrawn]
  rfl

theorem heard_withdrawn :
    ((startAt config identity apiUrl).run withdrawn).session.heard .payments told =
      some ⟨7, .success, ""⟩ := by
  rw [run_withdrawn]
  exact (Session.heard_congr rfl _ _).trans WithdrawalCourse.heard_paidFrame

theorem heard_withdrawnCleared :
    ((startAt config identity apiUrl).run withdrawnCleared).session.heard .payments told =
      some ⟨7, .success, ""⟩ := by
  rw [withdrawnCleared, run_concat, heard_cleared]
  exact heard_withdrawn config identity apiUrl

theorem waiters_withdrawnCleared :
    (((startAt config identity apiUrl).run withdrawnCleared).session.trackers.get
      .payments).waiters = [.pending 7] := by
  rw [withdrawnCleared, run_concat, trackers_cleared]
  exact waiters_withdrawn config identity apiUrl

end

/-- The server of the session. -/
def usualConfig : Config := WithdrawalCourse.openSession.config

/-- A withdrawal settles by the frame that tells of its payment. -/
theorem settled_after_withdrawn :
    ((start usualConfig .empty (.ofUrl Settings.defaultApiUrl)).run
      withdrawn).session.heard .payments told = some ⟨7, .success, ""⟩ ∧
    (((start usualConfig .empty (.ofUrl Settings.defaultApiUrl)).run
      (withdrawn ++ [.arrived told])).session.trackers.get .payments).waiters =
        [.settled ⟨7, .success, ""⟩] := by
  have hheard := heard_withdrawn usualConfig .empty Settings.defaultApiUrl
  have hbefore := waiters_withdrawn usualConfig .empty Settings.defaultApiUrl
  unfold startAt at hheard hbefore
  have hafter := ((settles_unless_silenced usualConfig .empty (.ofUrl Settings.defaultApiUrl)
    withdrawn told .payments ⟨7, .success, ""⟩ hheard).1 rfl).1
  rw [hbefore] at hafter
  exact ⟨hheard, hafter⟩

/-- After `clearListeners` a pending payment is not settled by its event. -/
theorem not_settled_after_cleared :
    ¬ ∀ (config : Config) (identity : Identity) (api : ApiClient) (moves : List (SessionMove Unit))
      (arrival : Arrival) (channel : PaymentChannel) (outcome : PaymentOutcome),
      SessionMove.closed ∉ moves → SessionMove.streamClosed ∉ moves →
      let before := (start config identity api).run moves
      let after := (start config identity api).run (moves ++ [.arrived arrival])
      before.session.heard channel arrival = some outcome →
      .pending outcome.paymentId ∈ (before.session.trackers.get channel).waiters →
      .pending outcome.paymentId ∉ (after.session.trackers.get channel).waiters := by
  intro h
  have hheard := heard_withdrawnCleared usualConfig .empty Settings.defaultApiUrl
  have hwaiters := waiters_withdrawnCleared usualConfig .empty Settings.defaultApiUrl
  unfold startAt at hheard hwaiters
  have hlistens := run_listens (listens_start usualConfig .empty (.ofUrl Settings.defaultApiUrl))
    (Apart.start _ _ _) withdrawnCleared
  have hsilenced : (false || withdrawnCleared.any SessionMove.silences) = true := rfl
  rw [hsilenced] at hlistens
  -- the frame comes to a session of which no tracker listens any more
  have hkept := arrived_trackers hlistens told .payments
  rw [if_pos rfl] at hkept
  refine h usualConfig .empty (.ofUrl Settings.defaultApiUrl) withdrawnCleared told .payments
    ⟨7, .success, ""⟩ ?_ ?_ hheard ?_ ?_
  · simp [withdrawnCleared, withdrawn]
  · simp [withdrawnCleared, withdrawn]
  · rw [hwaiters]
    exact List.mem_singleton_self _
  · rw [run_concat, hkept, hwaiters]
    exact List.mem_singleton_self _

end SessionCourse
end LightningLottery
