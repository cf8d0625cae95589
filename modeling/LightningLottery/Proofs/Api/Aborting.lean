/-
  Requests on their way, and the signal that ends them.

  * `Trip`: a request that was sent, what came back, and the result that was handed out.
  * `ClientMove`, `ClientCourse.run`: requests are sent, replies come in, results are asked for, and
    all requests on their way are ended, in any order.
  * `OnWay`: whether nothing has been handed out for a request, by the moves since it was sent.
  * `ClientCourse.Since`, `Since.next`, `Since.run`: a request is as the moves since it was sent say,
    one move after the other.
  * `ClientCourse.aborted_iff`: a request is aborted exactly if that came while it was on its way.
-/
import LightningLottery.Proofs.Api.Flight
import LightningLottery.Proofs.Lists

namespace LightningLottery

/-! ## Signals -/

namespace AbortSignal

variable {s : AbortSignal}

/-- All signals that were given come before the current one. -/
def Sound (s : AbortSignal) : Prop := ∀ signal ∈ s.given, signal < s.current

theorem sound_fresh : fresh.Sound := fun _ h => absurd h List.not_mem_nil

theorem Sound.fire (h : s.Sound) : s.fire.Sound := by
  intro signal hm
  rcases List.mem_cons.1 hm with rfl | hm
  · exact Nat.lt_succ_self _
  · exact Nat.lt_succ_of_lt (h signal hm)

theorem Sound.current (h : s.Sound) : s.isGiven s.current = false := by
  rw [isGiven, List.contains_eq_mem, decide_eq_false_iff_not]
  exact fun hm => Nat.lt_irrefl _ (h _ hm)

theorem isGiven_fire (s : AbortSignal) (signal : Nat) :
    s.fire.isGiven signal = (signal == s.current || s.isGiven signal) := List.contains_cons

end AbortSignal

/-- Asking is launching and reading the reply. -/
theorem ApiClient.ask_eq {α : Type} [Wire α] {client : ApiClient} (hsound : client.signal.Sound)
    {endpoint : Endpoint α} {flight : Flight α} (h : client.launch endpoint = .ok flight)
    (server : Server) :
    client.ask server endpoint = (server flight.request).result α flight.request.url := by
  obtain ⟨-, url, -, hflight⟩ := launch_eq_ok_iff.1 h
  have hopen : client.isAborted flight = false := by
    rw [isAborted, hflight, hsound.current]
  simp only [ask, h, bind, Except.bind]
  exact land_of_not_aborted hopen _

/-! ## Moves -/

/-- A request that was sent, what became of it underneath, and the result that was handed out. -/
structure Trip where
  {Reply : Type}
  [wire : Wire Reply]
  flight : Flight Reply
  ready : Option Exchange
  result : Option (Except Error Reply)

attribute [instance] Trip.wire

namespace Trip

/-- A request that has just been sent. -/
def sent {α : Type} [Wire α] (flight : Flight α) : Trip := ⟨flight, none, none⟩

/-- Something becomes of a request underneath; only the first counts. -/
def hear (trip : Trip) (exchange : Exchange) : Trip :=
  { trip with ready := trip.ready.or (some exchange) }

/-- Asks for the result of a request, which is handed out once. -/
def poll (trip : Trip) (client : ApiClient) : Trip :=
  { trip with result := trip.result.or (client.poll trip.flight trip.ready) }

end Trip

/-- What can happen to a client and its requests, in any order. -/
inductive ClientMove where
  | sent {Reply : Type} [wire : Wire Reply] (endpoint : Endpoint Reply)
  /-- Something becomes of the request with this number underneath. -/
  | replied (n : Nat) (exchange : Exchange)
  /-- The result of the request with this number is asked for. -/
  | polled (n : Nat)
  | aborted
  /-- Requests go in the name of another key from now on. -/
  | named (publicKey : String)

/-- What a move says has become of a request. -/
def ClientMove.reply? (n : Nat) : ClientMove → Option Exchange
  | .replied m exchange => if m = n then some exchange else none
  | _ => none

/-- What became of a request first, by the moves since it was sent. -/
def firstReply? (n : Nat) (since : List ClientMove) : Option Exchange :=
  since.findSome? (·.reply? n)

/-- Nothing has been handed out for a request: whenever its result was asked for, there had been no
    word to abort and no reply. -/
def OnWay (n : Nat) (since : List ClientMove) : Prop :=
  ∀ earlier later, since = earlier ++ .polled n :: later →
    .aborted ∉ earlier ∧ firstReply? n earlier = none

/-- A client and the requests that went out, numbered in their order. -/
structure ClientCourse where
  client : ApiClient
  trips : List Trip

namespace ClientCourse

/-- A client of the server at a URL that has sent nothing yet. -/
def start (apiUrl : Url) (publicKey : String) (userAgent : Option String) : ClientCourse :=
  ⟨.create apiUrl publicKey userAgent, []⟩

/-- What a move makes of a client and its requests. A request that cannot be sent is none. -/
def next (c : ClientCourse) : ClientMove → ClientCourse
  | @ClientMove.sent _ _ endpoint =>
    match c.client.launch endpoint with
    | .ok flight => { c with trips := c.trips ++ [.sent flight] }
    | .error _ => c
  | .replied n exchange => { c with trips := c.trips.modify n (·.hear exchange) }
  | .polled n => { c with trips := c.trips.modify n (·.poll c.client) }
  | .aborted => { c with client := c.client.abort }
  | .named publicKey => { c with client := c.client.setPublicKey publicKey }

/-- What many moves make of them. -/
def run (c : ClientCourse) (moves : List ClientMove) : ClientCourse := moves.foldl next c

theorem run_append (c : ClientCourse) (moves later : List ClientMove) :
    c.run (moves ++ later) = (c.run moves).run later := List.foldl_append

end ClientCourse

/-! ## What the moves say of a request -/

section

variable {n : Nat} {since : List ClientMove}

theorem firstReply?_concat (n : Nat) (since : List ClientMove) (move : ClientMove) :
    firstReply? n (since ++ [move]) = (firstReply? n since).or (move.reply? n) := by
  rw [firstReply?, List.findSome?_append, List.findSome?_singleton, firstReply?]

theorem firstReply?_append {exchange : Exchange} (h : firstReply? n since = some exchange)
    (later : List ClientMove) : firstReply? n (since ++ later) = some exchange := by
  rw [firstReply?, List.findSome?_append, ← firstReply?, h, Option.some_or]

theorem onWay_nil (n : Nat) : OnWay n [] := by
  intro earlier later h
  exact absurd h.symm (List.append_ne_nil_of_right_ne_nil _ (List.cons_ne_nil _ _))

theorem onWay_concat {move : ClientMove} :
    OnWay n (since ++ [move]) ↔
      OnWay n since ∧ (move = .polled n → .aborted ∉ since ∧ firstReply? n since = none) := by
  constructor
  · intro h
    refine ⟨fun earlier later hs => h earlier (later ++ [move]) (by simp [hs]), ?_⟩
    rintro rfl
    exact h since [] rfl
  · rintro ⟨hsince, hmove⟩ earlier later h
    rcases concat_eq_append_cons_iff.1 h with ⟨rfl, rfl, -⟩ | ⟨later', -, hs⟩
    · exact hmove rfl
    · exact hsince earlier later' hs

end

namespace Exchange

theorem result_ne_aborted {α : Type} [Wire α] (url : Url) (exchange : Exchange) :
    exchange.result α url ≠ .error .aborted := by
  intro h
  cases exchange with
  | unanswered => cases h
  | cutShort => cases h
  | answered status body =>
    simp only [result] at h
    split_ifs at h
    · cases h
    · cases h
    · cases h
    · cases h
    · cases hread : (Wire.decode body : Except Json.Fault α) <;> rw [hread] at h <;> cases h

end Exchange

theorem ApiClient.launch_ne_aborted {α : Type} (client : ApiClient) (endpoint : Endpoint α) :
    client.launch endpoint ≠ .error .aborted := by
  intro h
  unfold launch at h
  cases hpage : client.urlOf endpoint with
  | error e =>
    rw [hpage] at h
    cases h
    unfold urlOf at hpage
    split at hpage <;> cases hpage
  | ok page =>
    rw [hpage] at h
    simp only [bind, Except.bind] at h
    split at h <;> cases h

/-- What is handed out for a request that is asked for after moves since it was sent: an abort comes
    before all that became of it. -/
def Flight.Due {α : Type} [Wire α] (flight : Flight α) (n : Nat) (since : List ClientMove)
    (r : Except Error α) : Prop :=
  .aborted ∈ since ∧ r = .error .aborted ∨
    .aborted ∉ since ∧ ∃ exchange, firstReply? n since = some exchange ∧
      r = exchange.result α flight.request.url

/-- What has been handed out for a request, by the moves since it was sent. -/
def Flight.Returned {α : Type} [Wire α] (flight : Flight α) (n : Nat) (since : List ClientMove)
    (r : Except Error α) : Prop :=
  ∃ earlier later, since = earlier ++ .polled n :: later ∧ OnWay n earlier ∧
    flight.Due n earlier r

section

variable {α : Type} [Wire α] {flight : Flight α} {n : Nat} {since : List ClientMove}

theorem returned_concat {move : ClientMove} {r : Except Error α} :
    flight.Returned n (since ++ [move]) r ↔
      flight.Returned n since r ∨
        move = .polled n ∧ OnWay n since ∧ flight.Due n since r := by
  constructor
  · rintro ⟨earlier, later, h, hway, hdue⟩
    rcases concat_eq_append_cons_iff.1 h with ⟨rfl, rfl, -⟩ | ⟨later', -, hs⟩
    · exact Or.inr ⟨rfl, hway, hdue⟩
    · exact Or.inl ⟨earlier, later', hs, hway, hdue⟩
  · rintro (⟨earlier, later, rfl, hway, hdue⟩ | ⟨rfl, hway, hdue⟩)
    · exact ⟨earlier, later ++ [move], by simp, hway, hdue⟩
    · exact ⟨since, [], rfl, hway, hdue⟩

/-- A request is aborted if and only if an abort came while it was on its way. -/
theorem returned_aborted_iff :
    flight.Returned n since (.error .aborted) ↔
      ∃ earlier later, since = earlier ++ .polled n :: later ∧ OnWay n earlier ∧
        .aborted ∈ earlier := by
  constructor
  · rintro ⟨earlier, later, hs, hway, ⟨hm, -⟩ | ⟨-, exchange, -, hr⟩⟩
    · exact ⟨earlier, later, hs, hway, hm⟩
    · exact absurd hr.symm (exchange.result_ne_aborted _)
  · rintro ⟨earlier, later, hs, hway, hm⟩
    exact ⟨earlier, later, hs, hway, Or.inl ⟨hm, rfl⟩⟩

/-- Any other result is that of the first reply, without an abort before it was polled. -/
theorem returned_reply_iff {r : Except Error α} (hr : r ≠ .error .aborted) :
    flight.Returned n since r ↔
      ∃ earlier later exchange, since = earlier ++ .polled n :: later ∧ OnWay n earlier ∧
        .aborted ∉ earlier ∧ firstReply? n earlier = some exchange ∧
        r = exchange.result α flight.request.url := by
  constructor
  · rintro ⟨earlier, later, hs, hway, ⟨-, he⟩ | ⟨hm, exchange, hfirst, he⟩⟩
    · exact absurd he hr
    · exact ⟨earlier, later, exchange, hs, hway, hm, hfirst, he⟩
  · rintro ⟨earlier, later, exchange, hs, hway, hm, hfirst, he⟩
    exact ⟨earlier, later, hs, hway, Or.inr ⟨hm, exchange, hfirst, he⟩⟩

variable {client : ApiClient}

theorem ApiClient.poll_eq_none_iff (h : client.isAborted flight = true ↔ .aborted ∈ since) :
    client.poll flight (firstReply? n since) = none ↔
      .aborted ∉ since ∧ firstReply? n since = none := by
  unfold poll
  split
  · next haborted => exact ⟨nofun, fun hnot => absurd (h.1 haborted) hnot.1⟩
  · next haborted =>
    rw [Option.map_eq_none_iff]
    exact ⟨fun hnone => ⟨fun hm => haborted (h.2 hm), hnone⟩, And.right⟩

/-- **`poll` gives `aborted` after an abort, else the result of the first reply**, if the signal of
    the request was given exactly by the aborts among the moves. -/
theorem ApiClient.poll_eq_some_iff (h : client.isAborted flight = true ↔ .aborted ∈ since)
    {r : Except Error α} :
    client.poll flight (firstReply? n since) = some r ↔ flight.Due n since r := by
  unfold poll Flight.Due
  split
  · next haborted =>
    have hm := h.1 haborted
    rw [Option.some_inj]
    exact ⟨fun hr => Or.inl ⟨hm, hr.symm⟩,
      fun hdue => (hdue.resolve_right fun hnot => hnot.1 hm).2.symm⟩
  · next haborted =>
    have hm : .aborted ∉ since := fun hm => haborted (h.2 hm)
    have hland (exchange : Exchange) :
        client.land flight exchange = exchange.result α flight.request.url :=
      land_of_not_aborted (Bool.eq_false_iff.2 haborted) exchange
    rw [Option.map_eq_some_iff]
    constructor
    · rintro ⟨exchange, hfirst, rfl⟩
      exact Or.inr ⟨hm, exchange, hfirst, hland exchange⟩
    · rintro (⟨hm', -⟩ | ⟨-, exchange, hfirst, rfl⟩)
      · exact absurd hm' hm
      · exact ⟨exchange, hfirst, hland exchange⟩

end

/-! ## One move after the other -/

namespace ClientCourse

variable {α : Type} [Wire α]

/-- A request is as the moves since it was sent say: its reply is the first one, its signal was given
    exactly if one of them was to abort, and what was handed out for it is what was due. -/
structure Since (c : ClientCourse) (n : Nat) (flight : Flight α) (since : List ClientMove)
    (result : Option (Except Error α)) : Prop where
  trip : c.trips[n]? = some ⟨flight, firstReply? n since, result⟩
  sound : c.client.signal.Sound
  aborted : c.client.isAborted flight = true ↔ .aborted ∈ since
  current : .aborted ∉ since → c.client.signal.current = flight.signal
  onWay : result = none ↔ OnWay n since
  returned : ∀ r, result = some r ↔ flight.Returned n since r

variable {c : ClientCourse} {n : Nat} {flight : Flight α} {since : List ClientMove}
  {result : Option (Except Error α)}

theorem next_sound (h : c.client.signal.Sound) (move : ClientMove) :
    (c.next move).client.signal.Sound := by
  cases move with
  | aborted => exact h.fire
  | sent endpoint =>
    simp only [next]
    split <;> exact h
  | replied | polled | named => exact h

theorem run_sound (h : c.client.signal.Sound) (moves : List ClientMove) :
    (c.run moves).client.signal.Sound := by
  induction moves generalizing c with
  | nil => exact h
  | cons move moves ih => exact ih (next_sound h move)

theorem next_sent {endpoint : Endpoint α} (h : c.client.launch endpoint = .ok flight) :
    c.next (.sent endpoint) = { c with trips := c.trips ++ [.sent flight] } := by
  simp only [next, h]

theorem sent_since (hsound : c.client.signal.Sound) {endpoint : Endpoint α}
    (h : c.client.launch endpoint = .ok flight) :
    (c.next (.sent endpoint)).Since c.trips.length flight [] none := by
  obtain ⟨-, url, -, hflight⟩ := ApiClient.launch_eq_ok_iff.1 h
  have hsignal : flight.signal = c.client.signal.current := by rw [hflight]
  have hfresh : c.client.isAborted flight = false := by
    rw [ApiClient.isAborted, hsignal, hsound.current]
  rw [next_sent h]
  refine ⟨List.getElem?_concat_length, hsound, ?_, fun _ => hsignal.symm, ?_, fun r => ?_⟩
  · rw [hfresh]
    exact ⟨nofun, fun hm => absurd hm List.not_mem_nil⟩
  · exact iff_of_true rfl (onWay_nil _)
  · refine ⟨nofun, ?_⟩
    rintro ⟨earlier, later, hs, -⟩
    exact absurd hs.symm (List.append_ne_nil_of_right_ne_nil _ (List.cons_ne_nil _ _))

theorem Since.trip_or_none (h : c.Since n flight since result) :
    c.trips[n]? = some ⟨flight, (firstReply? n since).or none, result⟩ := by
  rw [Option.or_none, h.trip]

theorem Since.of_quiet {move : ClientMove} (h : c.Since n flight since result)
    (hpolled : move ≠ .polled n) (haborted : move ≠ .aborted)
    (hsignal : (c.next move).client.signal = c.client.signal)
    (htrip : (c.next move).trips[n]? =
      some ⟨flight, (firstReply? n since).or (move.reply? n), result⟩) :
    (c.next move).Since n flight (since ++ [move]) result := by
  have hmem : .aborted ∈ since ++ [move] ↔ .aborted ∈ since := by
    rw [List.mem_append, List.mem_singleton, or_iff_left haborted.symm]
  refine ⟨?_, ?_, ?_, ?_, ?_, fun r => ?_⟩
  · rw [htrip, firstReply?_concat]
  · rw [hsignal]
    exact h.sound
  · rw [hmem, ApiClient.isAborted, hsignal]
    exact h.aborted
  · rw [hmem, hsignal]
    exact h.current
  · rw [h.onWay, onWay_concat, and_iff_left fun he => absurd he hpolled]
  · rw [h.returned r, returned_concat]
    exact (or_iff_left fun hs => hpolled hs.1).symm

/-- An abort gives the signal of every request that was sent before. -/
theorem Since.abort (h : c.Since n flight since result) :
    (c.next .aborted).Since n flight (since ++ [.aborted]) result := by
  have hmem : .aborted ∈ since ++ [ClientMove.aborted] :=
    List.mem_append_right _ List.mem_cons_self
  have hgiven : (c.next .aborted).client.isAborted flight = true := by
    show c.client.signal.fire.isGiven flight.signal = true
    rw [AbortSignal.isGiven_fire, Bool.or_eq_true, beq_iff_eq]
    by_cases hm : .aborted ∈ since
    · exact Or.inr (h.aborted.2 hm)
    · exact Or.inl (h.current hm).symm
  refine ⟨?_, h.sound.fire, iff_of_true hgiven hmem, fun hnot => absurd hmem hnot, ?_, fun r => ?_⟩
  · rw [firstReply?_concat]
    exact h.trip_or_none
  · rw [h.onWay, onWay_concat, and_iff_left nofun]
  · rw [h.returned r, returned_concat]
    exact (or_iff_left nofun).symm

/-- Polling hands out what is due, unless a result was handed out before. -/
theorem Since.poll (h : c.Since n flight since result) :
    (c.next (.polled n)).Since n flight (since ++ [.polled n])
      (result.or (c.client.poll flight (firstReply? n since))) := by
  have hmem : .aborted ∈ since ++ [ClientMove.polled n] ↔ .aborted ∈ since := by
    rw [List.mem_append, List.mem_singleton, or_iff_left nofun]
  refine ⟨?_, h.sound, ?_, ?_, ?_, fun r => ?_⟩
  · have hready : firstReply? n (since ++ [.polled n]) = firstReply? n since :=
      (firstReply?_concat n since (.polled n)).trans Option.or_none
    show (c.trips.modify n (·.poll c.client))[n]? = _
    rw [List.getElem?_modify_eq, h.trip, hready]
    rfl
  · rw [hmem]
    exact h.aborted
  · rw [hmem]
    exact h.current
  · rw [Option.or_eq_none_iff, h.onWay, ApiClient.poll_eq_none_iff h.aborted, onWay_concat,
      imp_iff_right rfl]
  · rw [Option.or_eq_some_iff, h.onWay, h.returned r, ApiClient.poll_eq_some_iff h.aborted,
      returned_concat, eq_self, true_and]

/-- **One move preserves `Since`**: a result that was handed out stays. -/
theorem Since.next (h : c.Since n flight since result) (move : ClientMove) :
    ∃ after, (c.next move).Since n flight (since ++ [move]) after ∧
      ∀ r, result = some r → after = some r := by
  have hsame (hquiet : (c.next move).Since n flight (since ++ [move]) result) :
      ∃ after, (c.next move).Since n flight (since ++ [move]) after ∧
        ∀ r, result = some r → after = some r := ⟨result, hquiet, fun _ => id⟩
  cases move with
  | sent endpoint =>
    refine hsame (h.of_quiet nofun nofun ?_ ?_)
    · simp only [ClientCourse.next]
      split <;> rfl
    · simp only [ClientCourse.next]
      split
      · exact (List.getElem?_append_left (List.getElem?_eq_some_iff.1 h.trip).1).trans
          h.trip_or_none
      · exact h.trip_or_none
  | replied m exchange =>
    refine hsame (h.of_quiet nofun nofun rfl ?_)
    show (c.trips.modify m (·.hear exchange))[n]? = _
    rw [List.getElem?_modify, h.trip, ClientMove.reply?]
    split
    · rfl
    · rw [Option.or_none]
      rfl
  | polled m =>
    by_cases hm : m = n
    · subst hm
      refine ⟨_, h.poll, ?_⟩
      rintro r rfl
      exact Option.some_or
    · refine hsame (h.of_quiet (fun he => hm (ClientMove.polled.inj he)) nofun rfl ?_)
      show (c.trips.modify m (·.poll c.client))[n]? = _
      rw [List.getElem?_modify_ne _ _ hm]
      exact h.trip_or_none
  | aborted => exact hsame h.abort
  | named publicKey =>
    refine hsame (h.of_quiet nofun nofun rfl ?_)
    exact h.trip_or_none

/-- **Moves preserve `Since`.** -/
theorem Since.run (h : c.Since n flight since result) (moves : List ClientMove) :
    ∃ after, (c.run moves).Since n flight (since ++ moves) after ∧
      ∀ r, result = some r → after = some r := by
  induction moves generalizing c since result with
  | nil => exact ⟨result, by rwa [List.append_nil], fun _ => id⟩
  | cons move moves ih =>
    obtain ⟨middle, hmiddle, hkept⟩ := h.next move
    obtain ⟨after, hafter, hkept'⟩ := ih hmiddle
    rw [List.append_assoc] at hafter
    exact ⟨after, hafter, fun r hr => hkept' r (hkept r hr)⟩

/-- Without an abort, the result polled after a reply is that of the first reply. -/
theorem Since.result_of_reply (h : c.Since n flight since result) (haborted : .aborted ∉ since)
    {earlier later : List ClientMove} {exchange : Exchange}
    (hs : since = earlier ++ .polled n :: later) (hfirst : firstReply? n earlier = some exchange) :
    result = some (exchange.result α flight.request.url) := by
  have hfirst' : firstReply? n since = some exchange := by
    rw [hs]
    exact firstReply?_append hfirst _
  cases hr : result with
  | none =>
    have hnone := (h.onWay.1 hr earlier later hs).2
    rw [hfirst] at hnone
    cases hnone
  | some r =>
    obtain ⟨earlier', later', hs', -, hdue⟩ := (h.returned r).1 hr
    rcases hdue with ⟨hm, -⟩ | ⟨-, exchange', hfirst'', rfl⟩
    · exact absurd (hs' ▸ List.mem_append_left _ hm) haborted
    · have hsame : firstReply? n since = some exchange' := by
        rw [hs']
        exact firstReply?_append hfirst'' _
      rw [Option.some_inj.1 (hfirst'.symm.trans hsame)]

/-- **A request is aborted if and only if an abort comes after it is sent and before its result is
    polled**; otherwise its result is that of its own first reply. It has no result exactly as long
    as it is `OnWay`, and a result is never replaced. -/
theorem aborted_iff (apiUrl : Url) (publicKey : String) (userAgent : Option String)
    (before after : List ClientMove) (endpoint : Endpoint α) :
    let c := (start apiUrl publicKey userAgent).run before
    let n := c.trips.length
    c.client.launch endpoint ≠ .error .aborted ∧
      ∀ flight, c.client.launch endpoint = .ok flight →
        ∃ result : Option (Except Error α),
          ((c.next (.sent endpoint)).run after).trips[n]? =
            some ⟨flight, firstReply? n after, result⟩ ∧
          (result = some (.error .aborted) ↔
            ∃ earlier later, after = earlier ++ .polled n :: later ∧ OnWay n earlier ∧
              .aborted ∈ earlier) ∧
          (∀ r, r ≠ .error .aborted →
            (result = some r ↔
              ∃ earlier later exchange, after = earlier ++ .polled n :: later ∧ OnWay n earlier ∧
                .aborted ∉ earlier ∧ firstReply? n earlier = some exchange ∧
                r = exchange.result α flight.request.url)) ∧
          (result = none ↔ OnWay n after) ∧
          (.aborted ∉ after → ∀ earlier later exchange,
            after = earlier ++ .polled n :: later → firstReply? n earlier = some exchange →
              result = some (exchange.result α flight.request.url)) ∧
          ∀ r, result = some r → ∀ later,
            ((c.next (.sent endpoint)).run (after ++ later)).trips[n]? =
              some ⟨flight, firstReply? n (after ++ later), some r⟩ := by
  intro c n
  refine ⟨ApiClient.launch_ne_aborted c.client endpoint, fun flight hlaunch => ?_⟩
  have hsound : c.client.signal.Sound := run_sound AbortSignal.sound_fresh before
  have hstart := sent_since hsound hlaunch
  obtain ⟨result, h, -⟩ := hstart.run after
  rw [List.nil_append] at h
  refine ⟨result, h.trip, (h.returned _).trans returned_aborted_iff,
    fun r hr => (h.returned r).trans (returned_reply_iff hr), h.onWay,
    fun haborted _ _ _ => h.result_of_reply haborted, ?_⟩
  rintro r rfl later
  obtain ⟨final, hfinal, hkept⟩ := h.run later
  rw [run_append, ← hkept r rfl]
  exact hfinal.trip

end ClientCourse
end LightningLottery
