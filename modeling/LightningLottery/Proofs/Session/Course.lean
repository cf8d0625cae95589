/-
  A session in use, and all that can happen to it.

  * `SessionCourse`: a session, and the numbers of the subscriptions that its owner was given.
  * `SessionMove`, `SessionCourse.run`: bets and withdrawals go on, the stream brings something, and
    the owner does what it likes, in any order.
  * `Session.placeBet_fst`, `Session.withdraw_fst`: a bet or a withdrawal with a server that takes
    no time is one of these moves.
  * `SessionCourse.Apart`: the owner holds no subscription of the payments.
  * `SessionCourse.run_listens`: the payments listen until all listeners are dropped.
  * `SessionCourse.next_owner`: only a switch changes the identity and the name of the requests.
  * `SessionCourse.run_client_holds`: what no move takes from the client of a session, such as its
    server (`run_base`) and the order of its signals (`run_sound`).
  * `SessionCourse.run_speaks`: requests go in the name of the identity.
-/
import LightningLottery.Proofs.Api.Aborting
import LightningLottery.Proofs.Session.Settlement
import LightningLottery.Session.Bet

namespace LightningLottery

/-! ## Moves -/

/-- A listener of the owner of a session: payloads as they are, or read as those of a kind. -/
def Listener.ofOwner {Tag : Type} (kind : Option EventType) (tag : Tag) : Listener Tag :=
  match kind with
  | none => .raw tag
  | some kind => .typed kind tag

/-- A session in use, and the numbers of the subscriptions that its owner was given, the first
    first. -/
structure SessionCourse (Tag : Type) where
  session : Session Tag
  obtained : List Nat

/-- What can happen to a session in use, in any order. Of bets and withdrawals there may be many
    under way, each as far as it likes; what only asks the server changes nothing here. -/
inductive SessionMove (Tag : Type) where
  /-- A bet goes on with what has become of its request, at this time. -/
  | betResumed (now : UInt64) (ready : Option Exchange) (step : BetStep)
  /-- A withdrawal goes on with what has become of its request, at this time. -/
  | withdrawalResumed (now : UInt64) (order : WithdrawalOrder) (ready : Option Exchange)
    (step : WithdrawalStep)
  /-- Something arrives at the event stream. -/
  | arrived (arrival : Arrival)
  /-- The owner listens to an event with a listener of its own. -/
  | subscribed (event : String) (kind : Option EventType) (tag : Tag)
  /-- The owner listens to an event with a shared listener. -/
  | shared (event : String) (kind : Option EventType) (tag : Tag)
  /-- The owner ends the subscription whose number it was given as the one at this place. -/
  | unsubscribed (place : Nat)
  /-- The owner drops all listeners and keeps the connection. -/
  | cleared
  /-- The waiter with this index is dropped. -/
  | waiterDropped (channel : PaymentChannel) (n : Nat)
  /-- The session is told to switch to another identity, and this comes of saving it. -/
  | switched (identity : Identity) (saved : Except Error Unit)
  /-- The requests on their way are ended. -/
  | aborted
  /-- The event stream is closed, and nothing else. -/
  | streamClosed
  | closed

/-- Whether a move drops the listeners of a session, those of its payments with them. -/
def SessionMove.silences {Tag : Type} : SessionMove Tag → Bool
  | .cleared | .streamClosed | .closed => true
  | _ => false

namespace Session

variable {Tag : Type}

/-- What becomes of a session that is told to switch to another identity, by what comes of saving
    it. -/
def switch (s : Session Tag) (identity : Identity) (saved : Except Error Unit) : Session Tag :=
  match identity.check, saved with
  | .ok _, .ok _ => { s with api := s.api.setPublicKey identity.publicKey, identity := identity }
  | _, _ => s

theorem replaceIdentity_fst (s : Session Tag) (identity : Identity) (storage : Storage) :
    (s.replaceIdentity identity storage).1.1 = s.switch identity (storage.save identity).2 := by
  unfold replaceIdentity switch
  cases identity.check with
  | error e => rfl
  | ok _ =>
    rcases storage.save identity with ⟨after, e | _⟩
    · rfl
    · rfl

theorem switch_cases (s : Session Tag) (identity : Identity) (saved : Except Error Unit) :
    s.switch identity saved = s ∨
      identity.check = .ok () ∧ saved = .ok () ∧ s.switch identity saved =
        { s with api := s.api.setPublicKey identity.publicKey, identity := identity } := by
  unfold switch
  split
  · next hcheck => exact Or.inr ⟨hcheck, rfl, rfl⟩
  · exact Or.inl rfl

theorem resumeBet_session (s : Session Tag) (now : UInt64) (ready : Option Exchange)
    (step : BetStep) :
    (s.resumeBet now ready step).1 = s ∨
      ∃ id, (s.resumeBet now ready step).1 = s.track .invoices id := by
  cases step with
  | asking amount flight =>
    simp only [resumeBet, endBet]
    split
    · exact Or.inl rfl
    · split
      · exact Or.inr ⟨_, rfl⟩
      · exact Or.inl rfl
  | ended result => exact Or.inl rfl

theorem placeBet_fst (s : Session Tag) (server : ApiClient.Server) (now amount : UInt64) :
    ∃ ready step, (s.placeBet server now amount).1 = (s.resumeBet now ready step).1 := by
  unfold placeBet
  cases s.requestInvoice amount with
  | error e => exact ⟨none, .ended (.error e), rfl⟩
  | ok flight =>
    refine ⟨some (server flight.request), .asking amount flight, ?_⟩
    simp only [resumeBet, ApiClient.poll_some]

/-- A withdrawal with a server that takes no time changes the session when it goes on from its
    payout, or never. -/
theorem withdraw_fst (s : Session Tag) (server : ApiClient.Server) (now : UInt64)
    (order : WithdrawalOrder) :
    ∃ ready step, (s.withdraw server now order).1 =
      (s.resumeWithdrawal now order ready step).1 := by
  unfold withdraw
  split
  · next invoice flight _ =>
    refine ⟨some (server flight.request), .askingPayout invoice flight, ?_⟩
    simp only [resumeWithdrawal, ApiClient.poll_some]
  · next e _ => exact ⟨none, .ended (.error e), rfl⟩

end Session

namespace SessionCourse

variable {Tag : Type}

/-- A session whose owner has no subscriptions yet. -/
def start (config : Config) (identity : Identity) (api : ApiClient) : SessionCourse Tag :=
  ⟨.assemble config identity api, []⟩

theorem start_identity (config : Config) (identity : Identity) (api : ApiClient) :
    (start config identity api : SessionCourse Tag).session.identity = identity := rfl

theorem start_api (config : Config) (identity : Identity) (api : ApiClient) :
    (start config identity api : SessionCourse Tag).session.api =
      api.setPublicKey identity.publicKey := rfl

/-- Changes the event stream, and notes the number that a subscription is given. -/
def subscribeBy (c : SessionCourse Tag)
    (change : EventStream (Listener Tag) → EventStream (Listener Tag) × Nat) :
    SessionCourse Tag :=
  let (events, id) := change c.session.events
  ⟨{ c.session with events := events }, c.obtained ++ [id]⟩

variable [DecidableEq Tag]

/-- What a move makes of a session. -/
def next (c : SessionCourse Tag) : SessionMove Tag → SessionCourse Tag
  | .betResumed now ready step => { c with session := (c.session.resumeBet now ready step).1 }
  | .withdrawalResumed now order ready step =>
    { c with session := (c.session.resumeWithdrawal now order ready step).1 }
  | .arrived arrival => { c with session := (c.session.arrive arrival).1 }
  | .subscribed event kind tag => c.subscribeBy fun s => s.subscribe event (.ofOwner kind tag)
  | .shared event kind tag => c.subscribeBy fun s => s.subscribeShared event (.ofOwner kind tag)
  | .unsubscribed place =>
    match c.obtained[place]? with
    | some id =>
      { c with session := { c.session with events := (c.session.events.unsubscribe id).1 } }
    | none => c
  | .cleared => { c with session := { c.session with events := c.session.events.clearListeners } }
  | .waiterDropped channel n =>
    { c with session :=
      { c.session with
        trackers := c.session.trackers.update channel fun t => t.dropWaiter n } }
  | .switched identity saved => { c with session := c.session.switch identity saved }
  | .aborted => { c with session := { c.session with api := c.session.api.abort } }
  | .streamClosed => { c with session := { c.session with events := c.session.events.close } }
  | .closed => { c with session := c.session.close }

/-- What many moves make of a session. -/
def run (c : SessionCourse Tag) (moves : List (SessionMove Tag)) : SessionCourse Tag :=
  moves.foldl next c

theorem run_concat (c : SessionCourse Tag) (moves : List (SessionMove Tag))
    (move : SessionMove Tag) : c.run (moves ++ [move]) = (c.run moves).next move :=
  List.foldl_append

/-! ## Subscriptions -/

/-- What a move does to the subscriptions of a session, if anything. -/
def change? (c : SessionCourse Tag) : SessionMove Tag → Option (RegistryMove (Listener Tag))
  | .subscribed event kind tag => some (.subscribed event (.ofOwner kind tag))
  | .shared event kind tag => some (.shared event (.ofOwner kind tag))
  | .unsubscribed place => c.obtained[place]?.map .unsubscribed
  | .cleared | .streamClosed | .closed => some .cleared
  | _ => none

/-- **All that a move does to the subscriptions**: what its owner does, and nothing else. -/
theorem next_registry (c : SessionCourse Tag) (move : SessionMove Tag) :
    (c.next move).session.events.registry =
      match c.change? move with
      | some change => c.session.events.registry.change change
      | none => c.session.events.registry := by
  cases move with
  | betResumed now ready step =>
    rcases c.session.resumeBet_session now ready step with hs | ⟨id, hs⟩ <;>
      simp only [next, change?, hs, Session.track]
  | withdrawalResumed now order ready step =>
    rcases c.session.resumeWithdrawal_session now order ready step with hs | ⟨id, hs⟩ <;>
      simp only [next, change?, hs, Session.track]
  | arrived arrival => exact EventStream.arrive_registry c.session.events arrival
  | subscribed event kind tag => rfl
  | shared event kind tag => rfl
  | unsubscribed place =>
    simp only [next, change?]
    cases c.obtained[place]? <;> rfl
  | cleared => rfl
  | waiterDropped channel n => rfl
  | switched identity saved =>
    rcases c.session.switch_cases identity saved with hs | ⟨-, -, hs⟩ <;>
      simp only [next, change?, hs]
  | aborted => rfl
  | streamClosed => rfl
  | closed => rfl

omit [DecidableEq Tag] in
theorem ofOwner_ne_tracker (kind : Option EventType) (tag : Tag) (channel : PaymentChannel) :
    Listener.ofOwner kind tag ≠ .tracker channel := by
  cases kind <;> exact nofun

/-- The owner holds no subscription of the payments: none of the numbers that it was given is that
    of one of them. -/
structure Apart (c : SessionCourse Tag) : Prop where
  tidy : c.session.events.registry.Tidy
  given : ∀ id ∈ c.obtained, id < c.session.events.registry.nextId
  apart : ∀ sub ∈ c.session.events.registry.subscriptions, sub.id ∈ c.obtained →
    ∀ channel, sub.listener ≠ .tracker channel

namespace Apart

variable {c : SessionCourse Tag}

theorem start (config : Config) (identity : Identity) (api : ApiClient) :
    (start config identity api : SessionCourse Tag).Apart where
  tidy := (Registry.tidy_empty.change (.subscribed _ _)).change (.subscribed _ _)
  given _ h := nomatch h
  apart _ _ h := nomatch h

omit [DecidableEq Tag] in
theorem add (h : c.Apart) (event : String) {listener : Listener Tag} {shared : Bool}
    (hown : ∀ channel, listener ≠ .tracker channel) :
    ∀ sub ∈ (c.session.events.registry.add event listener shared).1.subscriptions,
      sub.id ∈ c.obtained ++ [c.session.events.registry.nextId] →
        ∀ channel, sub.listener ≠ .tracker channel := by
  intro sub hsub hid
  rcases List.mem_append.1 hsub with hsub | hsub
  · rcases List.mem_append.1 hid with hid | hid
    · exact h.apart sub hsub hid
    · have hlt := h.tidy.below sub hsub
      rw [List.mem_singleton.1 hid] at hlt
      exact absurd hlt (Nat.lt_irrefl _)
  · rw [List.mem_singleton.1 hsub]
    exact hown

omit [DecidableEq Tag] in
theorem given_add (h : c.Apart) :
    ∀ id ∈ c.obtained ++ [c.session.events.registry.nextId],
      id < c.session.events.registry.nextId + 1 := by
  intro id hid
  rcases List.mem_append.1 hid with hid | hid
  · exact Nat.lt_succ_of_lt (h.given id hid)
  · rw [List.mem_singleton.1 hid]
    exact Nat.lt_succ_self _

omit [DecidableEq Tag] in
theorem congr (h : c.Apart) {c' : SessionCourse Tag}
    (hr : c'.session.events.registry = c.session.events.registry)
    (ho : c'.obtained = c.obtained) : c'.Apart := by
  refine ⟨?_, ?_, ?_⟩
  · rw [hr]; exact h.tidy
  · rw [hr, ho]; exact h.given
  · rw [hr, ho]; exact h.apart

/-- **Every move preserves `Apart`**: the owner holds no subscription of the payments. -/
theorem next (h : c.Apart) (move : SessionMove Tag) : (c.next move).Apart := by
  cases move with
  | subscribed event kind tag =>
    exact ⟨h.tidy.change (.subscribed _ _), h.given_add,
      h.add event (ofOwner_ne_tracker kind tag)⟩
  | shared event kind tag =>
    have htidy := h.tidy.change (.shared event (.ofOwner kind tag))
    simp only [SessionCourse.next, subscribeBy, EventStream.subscribeShared]
    simp only [Registry.change] at htidy
    cases hs : c.session.events.registry.shared? event (.ofOwner kind tag) with
    | none =>
      simp only [Registry.subscribeShared, hs] at htidy ⊢
      exact ⟨htidy, h.given_add, h.add event (ofOwner_ne_tracker kind tag)⟩
    | some s =>
      -- the owner is given a number again, and numbers tell subscriptions apart
      simp only [Registry.subscribeShared, hs]
      have hmem : s ∈ c.session.events.registry.subscriptions := List.mem_of_find?_eq_some hs
      have hfits := List.find?_some hs
      simp only [Bool.and_eq_true, beq_iff_eq] at hfits
      refine ⟨h.tidy, fun id hid => ?_, fun sub hsub hid => ?_⟩
      · rcases List.mem_append.1 hid with hid | hid
        · exact h.given id hid
        · rw [List.mem_singleton.1 hid]
          exact h.tidy.below s hmem
      · rcases List.mem_append.1 hid with hid | hid
        · exact h.apart sub hsub hid
        · rw [h.tidy.eq_of_id hsub hmem (List.mem_singleton.1 hid), hfits.2]
          exact ofOwner_ne_tracker kind tag
  | unsubscribed place =>
    simp only [SessionCourse.next]
    cases c.obtained[place]? with
    | none => exact h
    | some id =>
      exact ⟨h.tidy.filter _, h.given, fun sub hsub => h.apart sub (List.mem_filter.1 hsub).1⟩
  | cleared | streamClosed | closed =>
    exact ⟨h.tidy.change .cleared, h.given, fun _ hsub => absurd hsub List.not_mem_nil⟩
  | betResumed | withdrawalResumed | arrived | waiterDropped | switched | aborted =>
    exact h.congr (next_registry c _) rfl

end Apart

/-! ## Who listens -/

/-- The payments of a channel listen to their own event, unless they are silenced, and to no
    other. -/
def Listens (c : SessionCourse Tag) (silenced : Bool) : Prop :=
  ∀ channel event, .tracker channel ∈ c.session.events.registry.listeners event ↔
    silenced = false ∧ event = channel.event.name

omit [DecidableEq Tag] in
theorem listens_start (config : Config) (identity : Identity) (api : ApiClient) :
    (start config identity api : SessionCourse Tag).Listens false := by
  intro channel event
  exact ((Session.Hears.assemble config identity api).listens channel event).trans
    (and_iff_right rfl).symm

/-- **A move silences the payments if and only if it drops all listeners**: the owner can only end
    subscriptions of its own. -/
theorem Listens.next {c : SessionCourse Tag} {silenced : Bool} (h : c.Listens silenced)
    (ha : c.Apart) (move : SessionMove Tag) :
    (c.next move).Listens (silenced || move.silences) := by
  intro channel event'
  have hstays (hm : move.silences = false) {P : Prop}
      (hP : P ↔ .tracker channel ∈ c.session.events.registry.listeners event') :
      P ↔ (silenced || move.silences) = false ∧ event' = channel.event.name := by
    rw [hm, Bool.or_false]
    exact hP.trans (h channel event')
  rw [next_registry]
  cases move with
  | subscribed event kind tag =>
    refine hstays rfl (Registry.mem_listeners_subscribe.trans (or_iff_left ?_))
    exact fun hl => ofOwner_ne_tracker kind tag channel hl.2
  | shared event kind tag =>
    refine hstays rfl (Registry.mem_listeners_subscribeShared.trans (or_iff_left ?_))
    exact fun hl => ofOwner_ne_tracker kind tag channel hl.2
  | unsubscribed place =>
    simp only [change?]
    cases hid : c.obtained[place]? with
    | none => exact hstays rfl Iff.rfl
    | some id =>
      refine hstays rfl (Registry.mem_listeners_unsubscribe ?_)
      rintro sub hsub hl rfl
      exact ha.apart sub hsub (List.mem_of_getElem? hid) channel hl
  | cleared | streamClosed | closed =>
    have htrue : (silenced || true) = true := Bool.or_true silenced
    simp only [SessionMove.silences, htrue, Bool.true_eq_false, false_and, iff_false]
    exact List.not_mem_nil
  | betResumed | withdrawalResumed | arrived | waiterDropped | switched | aborted =>
    exact hstays rfl Iff.rfl

/-- **The payments of a session listen until all listeners are dropped.** -/
theorem run_listens {c : SessionCourse Tag} {silenced : Bool} (h : c.Listens silenced)
    (ha : c.Apart) (moves : List (SessionMove Tag)) :
    (c.run moves).Listens (silenced || moves.any SessionMove.silences) := by
  induction moves generalizing c silenced with
  | nil => rw [List.any_nil, Bool.or_false]; exact h
  | cons move moves ih =>
    rw [List.any_cons, ← Bool.or_assoc]
    exact ih (h.next ha move) (ha.next move)

end SessionCourse

/-! ## In whose name -/

namespace Session

variable {Tag : Type}

/-- Requests of a session go in the name of its identity. -/
def Speaks (s : Session Tag) : Prop := s.api.publicKey = s.identity.publicKey

theorem Speaks.switch {s : Session Tag} (h : s.Speaks) (identity : Identity)
    (saved : Except Error Unit) : (s.switch identity saved).Speaks := by
  rcases s.switch_cases identity saved with hs | ⟨-, -, hs⟩
  · rwa [hs]
  · rw [hs]
    rfl

end Session

namespace SessionCourse

variable {Tag : Type} [DecidableEq Tag]

omit [DecidableEq Tag] in
theorem start_speaks (config : Config) (identity : Identity) (api : ApiClient) :
    (start config identity api : SessionCourse Tag).session.Speaks := rfl

/-- **Only a switch changes the identity**, and with it the key that the client sends. Every other
    move leaves both as they are, or ends the requests that are on their way. -/
theorem next_owner (c : SessionCourse Tag) (move : SessionMove Tag) :
    (c.next move).session.identity = c.session.identity ∧
        ((c.next move).session.api = c.session.api ∨
          (c.next move).session.api = c.session.api.abort) ∨
      ∃ identity saved, move = .switched identity saved ∧ identity.check = .ok () ∧
        (c.next move).session.identity = identity ∧
        (c.next move).session.api = c.session.api.setPublicKey identity.publicKey := by
  cases move with
  | betResumed now ready step =>
    simp only [next]
    rcases c.session.resumeBet_session now ready step with hs | ⟨id, hs⟩ <;> rw [hs] <;>
      exact Or.inl ⟨rfl, Or.inl rfl⟩
  | withdrawalResumed now order ready step =>
    simp only [next]
    rcases c.session.resumeWithdrawal_session now order ready step with hs | ⟨id, hs⟩ <;>
      rw [hs] <;> exact Or.inl ⟨rfl, Or.inl rfl⟩
  | switched identity saved =>
    simp only [next]
    rcases c.session.switch_cases identity saved with hs | ⟨hcheck, -, hs⟩
    · rw [hs]
      exact Or.inl ⟨rfl, Or.inl rfl⟩
    · rw [hs]
      exact Or.inr ⟨identity, saved, rfl, hcheck, rfl, rfl⟩
  | unsubscribed place =>
    simp only [next]
    split <;> exact Or.inl ⟨rfl, Or.inl rfl⟩
  | aborted | closed => exact Or.inl ⟨rfl, Or.inr rfl⟩
  | arrived | subscribed | shared | cleared | waiterDropped | streamClosed =>
    exact Or.inl ⟨rfl, Or.inl rfl⟩

/-- A property of the client holds after all moves, if `abort` and `setPublicKey` preserve it. -/
theorem run_client_holds {P : ApiClient → Prop} (habort : ∀ client, P client → P client.abort)
    (hname : ∀ client key, P client → P (client.setPublicKey key)) {c : SessionCourse Tag}
    (h : P c.session.api) (moves : List (SessionMove Tag)) : P (c.run moves).session.api := by
  induction moves generalizing c with
  | nil => exact h
  | cons move moves ih =>
    refine ih ?_
    rcases c.next_owner move with ⟨-, hapi | hapi⟩ | ⟨identity, saved, -, -, -, hapi⟩
    · rwa [hapi]
    · rw [hapi]
      exact habort _ h
    · rw [hapi]
      exact hname _ _ h

theorem run_base (c : SessionCourse Tag) (moves : List (SessionMove Tag)) :
    (c.run moves).session.api.base = c.session.api.base :=
  run_client_holds (P := fun client => client.base = c.session.api.base) (fun _ h => h)
    (fun _ _ h => h) rfl moves

theorem run_sound {c : SessionCourse Tag} (h : c.session.api.signal.Sound)
    (moves : List (SessionMove Tag)) : (c.run moves).session.api.signal.Sound :=
  run_client_holds (P := fun client => client.signal.Sound) (fun _ => .fire) (fun _ _ h => h) h
    moves

theorem next_speaks {c : SessionCourse Tag} (h : c.session.Speaks) (move : SessionMove Tag) :
    (c.next move).session.Speaks := by
  rw [Session.Speaks] at h ⊢
  rcases c.next_owner move with ⟨hidentity, hapi | hapi⟩ | ⟨identity, saved, -, -, hidentity, hapi⟩
  · rw [hidentity, hapi, h]
  · rw [hidentity, hapi, ← h]
    rfl
  · rw [hidentity, hapi]
    rfl

/-- **Whatever happens to a session, its requests go in the name of its identity.** -/
theorem run_speaks {c : SessionCourse Tag} (h : c.session.Speaks)
    (moves : List (SessionMove Tag)) : (c.run moves).session.Speaks := by
  induction moves generalizing c with
  | nil => exact h
  | cons move moves ih => exact ih (next_speaks h move)

end SessionCourse
end LightningLottery
