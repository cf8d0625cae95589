/-
  The published state of an event stream, and what its loop is doing.

  The loop applies its signals one after the other, and the stream may be closed between any two of
  them. So what happens is cut into moves here that are finer than an arrival.

  * `StreamState.Leads`: the diagram of the states.
  * `Publication`, `PublicationMove`: the loop, the signals that it has still to apply, and all
    states that were published.
  * `Publication.InStep`: the signals still to be applied lead along the diagram to the state that
    belongs to what the loop waits for, unless the stream is closed.
  * `Publication.run_inStep`: this holds after all moves in any order.
  * `EventStream.Reachable.exists_run`: every arrival at a stream, and its closing, is made of such
    moves.
-/
import Mathlib.Data.List.Chain
import LightningLottery.Proofs.Stream.Arrival

namespace LightningLottery

/-! ## The diagram -/

namespace StreamState

/-- The diagram of the states: from where a stream may go where. -/
inductive Leads : StreamState → StreamState → Prop
  | opens : Leads .connecting .opened
  | refused : Leads .connecting .failed
  | drops : Leads .opened .failed
  | waits : Leads .failed .reconnecting
  | retries : Leads .reconnecting .connecting
  /-- Any stream that is not closed may be. -/
  | closes {state : StreamState} (h : state ≠ .closed) : Leads state .closed

/-- **Signals make exactly the transitions of the diagram.** -/
theorem exists_on?_iff {state next : StreamState} :
    (∃ signal, state.on? signal = some next) ↔ Leads state next := by
  constructor
  · rintro ⟨signal, h⟩
    cases state <;> cases signal <;> cases h <;>
      first
        | exact .opens
        | exact .refused
        | exact .drops
        | exact .waits
        | exact .retries
        | exact .closes nofun
  · intro h
    cases h with
    | opens => exact ⟨.opened, rfl⟩
    | refused => exact ⟨.failed, rfl⟩
    | drops => exact ⟨.failed, rfl⟩
    | waits => exact ⟨.retryScheduled, rfl⟩
    | retries => exact ⟨.retryDue, rfl⟩
    | closes h => exact ⟨.shutdown, by cases state <;> first | rfl | exact absurd rfl h⟩

theorem apply_shutdown (state : StreamState) : state.apply .shutdown = .closed := by
  cases state <;> rfl

end StreamState

/-- The state that belongs to what the loop waits for. -/
def LoopPhase.state : LoopPhase → StreamState
  | .connecting => .connecting
  | .reading => .opened
  | .waiting _ => .reconnecting
  | .stopped => .closed

/-- **The signals of a step lead from the state of one phase to that of the next**, each of them in
    its place. -/
theorem ConnectionLoop.step_signals (loop : ConnectionLoop) (arrival : Arrival) :
    (loop.step arrival).2.foldlM StreamState.on? loop.phase.state =
      some (loop.step arrival).1.phase.state := by
  obtain ⟨phase, backoff⟩ := loop
  cases phase <;> cases arrival <;> rfl

/-! ## Moves -/

/-- A loop and what it publishes. -/
structure Publication where
  loop : ConnectionLoop
  /-- The signals that the loop has still to apply before it waits again. -/
  pending : List StreamSignal
  state : StreamState
  /-- All states that were put into the channel of the state, the first first. The channel keeps the
      last one only, so that a receiver that comes late does not see the others. -/
  published : List StreamState
  /-- Whether the loop is told to end. -/
  cancelled : Bool

/-- What can happen to a loop and to what it publishes. -/
inductive PublicationMove where
  /-- Something arrives at the loop. -/
  | arrived (arrival : Arrival)
  /-- The loop applies its next signal. -/
  | applied
  /-- Closing begins: the loop is told to end. -/
  | told
  /-- Closing goes on: the stream is shut down at once. -/
  | shutDown
  /-- The loop finds that it is told to end. -/
  | stopped
  /-- Closing ends: the loop is broken off where it waits. -/
  | aborted

namespace Publication

/-- A stream that starts to connect. -/
def start (backoff : Backoff) : Publication :=
  ⟨.start backoff, [], .connecting, [.connecting], false⟩

/-- Applies a signal; only a state that changes is published. -/
def apply (p : Publication) (signal : StreamSignal) : Publication :=
  match p.state.on? signal with
  | some next => { p with state := next, published := p.published ++ [next] }
  | none => p

/-- The loop has ended. -/
def halt (p : Publication) : Publication := { p with loop := { p.loop with phase := .stopped } }

/-- What a move does; one that has no place changes nothing. What arrives waits until all signals
    are applied; it may still come in when the loop is told to end and has not seen it. -/
def next (p : Publication) : PublicationMove → Publication
  | .arrived arrival =>
    if p.pending = [] then
      { p with loop := (p.loop.step arrival).1, pending := (p.loop.step arrival).2 }
    else p
  | .applied =>
    match p.pending with
    | [] => p
    | signal :: pending => ({ p with pending := pending }).apply signal
  | .told => { p with cancelled := true }
  | .shutDown => if p.cancelled then p.apply .shutdown else p
  | .stopped =>
    if p.pending = [] ∧ p.cancelled then { p.halt with pending := [.shutdown] } else p
  | .aborted => if p.pending = [] ∧ p.state = .closed then p.halt else p

/-- What many moves do. -/
def run (p : Publication) (moves : List PublicationMove) : Publication := moves.foldl next p

/-- The published state is in step with the loop: unless the stream is closed, the signals still to
    be applied lead to the state that belongs to what the loop waits for. -/
structure InStep (p : Publication) : Prop where
  signals : p.state = .closed ∨ p.pending.foldlM StreamState.on? p.state = some p.loop.phase.state
  path : p.published.IsChain StreamState.Leads
  first : p.published.head? = some .connecting
  last : p.published.getLast? = some p.state

theorem start_inStep (backoff : Backoff) : (start backoff).InStep :=
  ⟨Or.inr rfl, .singleton _, rfl, rfl⟩

theorem apply_state (p : Publication) (signal : StreamSignal) :
    (p.apply signal).state = p.state.apply signal := by
  unfold apply StreamState.apply
  split
  · next next h => rw [h]; rfl
  · next h => rw [h]; rfl

theorem apply_loop (p : Publication) (signal : StreamSignal) :
    (p.apply signal).loop = p.loop ∧ (p.apply signal).pending = p.pending ∧
      (p.apply signal).cancelled = p.cancelled := by
  unfold apply
  split <;> exact ⟨rfl, rfl, rfl⟩

theorem apply_path {p : Publication} (path : p.published.IsChain StreamState.Leads)
    (first : p.published.head? = some .connecting) (last : p.published.getLast? = some p.state)
    (signal : StreamSignal) :
    (p.apply signal).published.IsChain StreamState.Leads ∧
      (p.apply signal).published.head? = some .connecting ∧
      (p.apply signal).published.getLast? = some (p.apply signal).state := by
  unfold apply
  split
  · next next h =>
    refine ⟨?_, ?_, List.getLast?_concat⟩
    · refine List.isChain_append.2 ⟨path, .singleton _, fun x hx y hy => ?_⟩
      rw [last, Option.mem_some_iff] at hx
      rw [List.head?_cons, Option.mem_some_iff] at hy
      subst hx hy
      exact StreamState.exists_on?_iff.1 ⟨signal, h⟩
    · rw [List.head?_append, first]; rfl
  · exact ⟨path, first, last⟩

/-- **Every move preserves `InStep`.** -/
theorem next_inStep {p : Publication} (h : p.InStep) (move : PublicationMove) :
    (p.next move).InStep := by
  cases move with
  | arrived arrival =>
    simp only [next]
    split
    · next hp =>
      refine ⟨h.signals.imp_right fun hs => ?_, h.path, h.first, h.last⟩
      have hphase : p.state = p.loop.phase.state := by
        rw [hp] at hs
        exact Option.some.inj hs
      rw [hphase]
      exact p.loop.step_signals arrival
    · exact h
  | applied =>
    simp only [next]
    split
    · exact h
    · next signal pending hp =>
      obtain ⟨hpath, hfirst, hlast⟩ :=
        apply_path (p := { p with pending := pending }) h.path h.first h.last signal
      refine ⟨?_, hpath, hfirst, hlast⟩
      obtain ⟨hloop, hpending, -⟩ := apply_loop { p with pending := pending } signal
      rw [apply_state, hloop, hpending]
      rcases h.signals with hc | hs
      · refine Or.inl ?_
        show p.state.apply signal = .closed
        rw [hc]
        rfl
      · rw [hp, List.foldlM_cons] at hs
        obtain ⟨state, hon, hrest⟩ := Option.bind_eq_some_iff.1 hs
        have happly : p.state.apply signal = state := by
          rw [StreamState.apply, hon]
          rfl
        exact Or.inr (happly ▸ hrest)
  | told => exact ⟨h.signals, h.path, h.first, h.last⟩
  | shutDown =>
    simp only [next]
    split
    · obtain ⟨hpath, hfirst, hlast⟩ := apply_path h.path h.first h.last .shutdown
      exact ⟨Or.inl ((apply_state _ _).trans (StreamState.apply_shutdown _)), hpath, hfirst, hlast⟩
    · exact h
  | stopped =>
    simp only [next]
    split
    · refine ⟨?_, h.path, h.first, h.last⟩
      show p.state = .closed ∨ (p.state.on? .shutdown).bind some = some .closed
      cases p.state <;> first | exact Or.inl rfl | exact Or.inr rfl
    · exact h
  | aborted =>
    simp only [next]
    split
    · next hp => exact ⟨Or.inl hp.2, h.path, h.first, h.last⟩
    · exact h

theorem run_inStep {p : Publication} (h : p.InStep) (moves : List PublicationMove) :
    (p.run moves).InStep := by
  induction moves generalizing p with
  | nil => exact h
  | cons move moves ih => exact ih (next_inStep h move)

/-- Without pending signals the state is that of the phase, or `closed`. -/
theorem InStep.waits {p : Publication} (h : p.InStep) (hp : p.pending = []) :
    p.state = p.loop.phase.state ∨ p.state = .closed := by
  rcases h.signals with hc | hs
  · exact Or.inr hc
  · rw [hp] at hs
    exact Or.inl (Option.some.inj hs)

theorem InStep.has_place {p : Publication} (h : p.InStep) {signal : StreamSignal}
    {later : List StreamSignal} (hp : p.pending = signal :: later) :
    p.state = .closed ∨ ∃ next, p.state.on? signal = some next := by
  rcases h.signals with hc | hs
  · exact Or.inl hc
  · rw [hp, List.foldlM_cons] at hs
    obtain ⟨next, hon, -⟩ := Option.bind_eq_some_iff.1 hs
    exact Or.inr ⟨next, hon⟩

theorem apply_closed {p : Publication} (h : p.state = .closed) (signal : StreamSignal) :
    p.apply signal = p := by
  rw [apply, h]
  rfl

theorem next_closed {p : Publication} (h : p.state = .closed) (move : PublicationMove) :
    (p.next move).state = .closed ∧ (p.next move).published = p.published := by
  cases move with
  | arrived arrival => simp only [next]; split <;> exact ⟨h, rfl⟩
  | applied =>
    simp only [next]
    split
    · exact ⟨h, rfl⟩
    · next signal pending _ =>
      have hsame : ({ p with pending := pending } : Publication).apply signal =
          { p with pending := pending } :=
        apply_closed (p := { p with pending := pending }) h signal
      rw [hsame]
      exact ⟨h, rfl⟩
  | told => exact ⟨h, rfl⟩
  | shutDown => simp only [next, apply_closed h, ite_self, h, and_self]
  | stopped => simp only [next]; split <;> exact ⟨h, rfl⟩
  | aborted => simp only [next]; split <;> exact ⟨h, rfl⟩

theorem run_closed {p : Publication} (h : p.state = .closed) (moves : List PublicationMove) :
    (p.run moves).state = .closed ∧ (p.run moves).published = p.published := by
  induction moves generalizing p with
  | nil => exact ⟨h, rfl⟩
  | cons move moves ih =>
    obtain ⟨hstate, hpublished⟩ := next_closed h move
    exact ⟨(ih hstate).1, (ih hstate).2.trans hpublished⟩

theorem run_append (p : Publication) (first later : List PublicationMove) :
    p.run (first ++ later) = (p.run first).run later := List.foldl_append

/-! ## Streams -/

/-- The loop of a stream waits, and its state is the published one. -/
structure Shows {L : Type} (p : Publication) (s : EventStream L) : Prop where
  pending : p.pending = []
  loop : p.loop = s.loop
  state : p.state = s.state
  cancelled : p.cancelled = s.cancelled

theorem run_applied {p : Publication} {signals : List StreamSignal} (h : p.pending = signals) :
    let q := p.run (List.replicate signals.length .applied)
    q.pending = [] ∧ q.loop = p.loop ∧ q.state = signals.foldl StreamState.apply p.state ∧
      q.cancelled = p.cancelled := by
  induction signals generalizing p with
  | nil => exact ⟨h, rfl, rfl, rfl⟩
  | cons signal signals ih =>
    have hnext : p.next .applied = ({ p with pending := signals } : Publication).apply signal := by
      simp only [next, h]
    obtain ⟨hloop, hpending, hcancelled⟩ :=
      apply_loop ({ p with pending := signals } : Publication) signal
    rw [← hnext] at hloop hpending hcancelled
    obtain ⟨h1, h2, h3, h4⟩ := ih hpending
    refine ⟨h1, h2.trans hloop, h3.trans ?_, h4.trans hcancelled⟩
    rw [hnext, apply_state]
    rfl

variable {L : Type}

/-- **An arrival is a sequence of moves**: the loop takes it in and applies its signals one by one,
    or finds the stream closed and ends. -/
theorem Shows.arrive {p : Publication} {s : EventStream L} (h : p.Shows s) (arrival : Arrival) :
    ∃ moves, (p.run moves).Shows (s.arrive arrival).1 := by
  rcases hc : s.cancelled with _ | _
  · have hnext : p.next (.arrived arrival) =
        { p with loop := (s.loop.step arrival).1, pending := (s.loop.step arrival).2 } := by
      simp only [next, h.pending, if_true, h.loop]
    refine ⟨.arrived arrival :: List.replicate (s.loop.step arrival).2.length .applied, ?_⟩
    have hpending : (p.next (.arrived arrival)).pending = (s.loop.step arrival).2 := by rw [hnext]
    obtain ⟨h1, h2, h3, h4⟩ := run_applied hpending
    rw [EventStream.arrive_open hc]
    refine ⟨h1, h2.trans (by rw [hnext]), h3.trans ?_, h4.trans ?_⟩
    · rw [hnext, ← h.state]
    · rw [hnext]; exact h.cancelled
  · have hstop : p.run [.stopped, .applied] =
        ({ p.halt with pending := [] } : Publication).apply .shutdown := by
      simp only [run, List.foldl_cons, List.foldl_nil, next, h.pending, h.cancelled, hc, and_self,
        if_true]
    refine ⟨[.stopped, .applied], ?_⟩
    obtain ⟨hloop, hpending, hcancelled⟩ :=
      apply_loop ({ p.halt with pending := [] } : Publication) .shutdown
    rw [EventStream.arrive_told hc, hstop]
    refine ⟨hpending, hloop.trans ?_, (apply_state _ _).trans ?_, hcancelled.trans h.cancelled⟩
    · rw [halt, h.loop]; rfl
    · exact congrArg (fun state => state.apply .shutdown) h.state

/-- **Closing a stream is two moves**: the loop is told to end, and the state becomes `closed`. -/
theorem Shows.close {p : Publication} {s : EventStream L} (h : p.Shows s) :
    (p.run [.told, .shutDown]).Shows s.close := by
  have hclose : p.run [.told, .shutDown] =
      ({ p with cancelled := true } : Publication).apply .shutdown := rfl
  obtain ⟨hloop, hpending, hcancelled⟩ :=
    apply_loop ({ p with cancelled := true } : Publication) .shutdown
  rw [hclose]
  exact ⟨hpending.trans h.pending, hloop.trans h.loop,
    (apply_state _ _).trans (congrArg (fun state => state.apply .shutdown) h.state), hcancelled⟩

end Publication

/-- What can become of a stream by arrivals, by closing it, and as listeners come and go. -/
inductive EventStream.Reachable {L : Type} (backoff : Backoff) : EventStream L → Prop
  | start : Reachable backoff (.start backoff)
  | arrive {s : EventStream L} (h : Reachable backoff s) (arrival : Arrival) :
    Reachable backoff (s.arrive arrival).1
  | close {s : EventStream L} (h : Reachable backoff s) : Reachable backoff s.close
  | listeners {s : EventStream L} (h : Reachable backoff s) (registry : Registry L) :
    Reachable backoff { s with registry := registry }

/-- Every reachable stream is shown by a run of moves. -/
theorem EventStream.Reachable.exists_run {L : Type} {backoff : Backoff} {s : EventStream L}
    (h : Reachable backoff s) : ∃ moves, ((Publication.start backoff).run moves).Shows s := by
  induction h with
  | start => exact ⟨[], rfl, rfl, rfl, rfl⟩
  | arrive _ arrival ih =>
    obtain ⟨moves, hs⟩ := ih
    obtain ⟨more, hs'⟩ := hs.arrive arrival
    exact ⟨moves ++ more, Publication.run_append _ _ _ ▸ hs'⟩
  | close _ ih =>
    obtain ⟨moves, hs⟩ := ih
    exact ⟨moves ++ [.told, .shutDown], Publication.run_append _ _ _ ▸ hs.close⟩
  | listeners _ registry ih =>
    obtain ⟨moves, hs⟩ := ih
    exact ⟨moves, hs.pending, hs.loop, hs.state, hs.cancelled⟩

/-- **The published state is in step with the loop**, after all moves in any order. A pending signal
    has a transition unless the state is `closed`; without pending signals the state is that of the
    phase of the loop, or `closed`. The states published form a path of the diagram from
    `connecting`, and nothing follows `closed`. Every `Reachable` stream is one of these. -/
theorem published_state_in_step (L : Type) (backoff : Backoff) (moves : List PublicationMove) :
    let p := (Publication.start backoff).run moves
    (∀ signal later, p.pending = signal :: later →
      p.state = .closed ∨ ∃ next, p.state.on? signal = some next) ∧
    (p.pending = [] → p.state = p.loop.phase.state ∨ p.state = .closed) ∧
    (p.published.head? = some .connecting ∧ p.published.getLast? = some p.state ∧
      p.published.IsChain StreamState.Leads) ∧
    (p.state = .closed →
      ∀ more, (p.run more).state = .closed ∧ (p.run more).published = p.published) ∧
    ∀ s : EventStream L, s.Reachable backoff →
      (s.state = s.loop.phase.state ∨ s.state = .closed) ∧
        ∃ moves, ((Publication.start backoff).run moves).Shows s := by
  intro p
  have inStep (moves : List PublicationMove) : ((Publication.start backoff).run moves).InStep :=
    Publication.run_inStep (Publication.start_inStep backoff) moves
  have hp : p.InStep := inStep moves
  refine ⟨fun signal later => hp.has_place, hp.waits, ⟨hp.first, hp.last, hp.path⟩,
    fun hc more => Publication.run_closed hc more, fun s hs => ?_⟩
  obtain ⟨moves', hshows⟩ := hs.exists_run
  refine ⟨?_, moves', hshows⟩
  rw [← hshows.state, ← hshows.loop]
  exact (inStep moves').waits hshows.pending

end LightningLottery
