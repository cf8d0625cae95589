/-
  An event stream under way, and what can happen to it.

  Its loop stops to wait in three places: for a connection, for the next frame, and for the end of a
  delay. Between any two of its steps its owner may do what it likes, and the clock may run.

  * `StreamCourse`: a stream on a clock, with the phases that its loop has entered and the calls
    that it has made so far.
  * `StreamMove`, `StreamCourse.run`: what can happen, in any order.
  * `ConnectionLoop.step_cases`: all that the loop does when something arrives.
  * `StreamCourse.attempts`: when the loop has asked for connections.
-/
import LightningLottery.Proofs.Stream.Arrival
import LightningLottery.Proofs.Stream.Listening

namespace LightningLottery

/-! ## The loop -/

/-- When the clock has to wake a loop that enters a phase now. -/
def LoopPhase.due (now : Nat) : LoopPhase → Option Nat
  | .waiting delay => some (now + delay.ceilMilliseconds)
  | _ => none

/-- **All that the loop does when something arrives**: it passes by what it does not wait for, and
    the frames. -/
theorem ConnectionLoop.step_cases (loop : ConnectionLoop) (arrival : Arrival) :
    loop.step arrival = (loop, []) ∨
      (loop.phase = .connecting ∧ (∃ fault, arrival = .refused fault) ∧
        loop.step arrival = loop.fail) ∨
      (loop.phase = .connecting ∧ arrival = .opened ∧
        loop.step arrival = (⟨.reading, loop.backoff.reset⟩, [.opened])) ∨
      (loop.phase = .reading ∧ (∃ fault, arrival = .dropped fault) ∧
        loop.step arrival = loop.fail) ∨
      ((∃ delay, loop.phase = .waiting delay) ∧ arrival = .delayOver ∧
        loop.step arrival = (⟨.connecting, loop.backoff⟩, [.retryDue])) := by
  obtain ⟨phase, backoff⟩ := loop
  cases phase <;> cases arrival <;> simp [step]

/-! ## Streams under way -/

/-- A stream on a clock, and what its loop has done so far. -/
structure StreamCourse (L : Type) where
  stream : EventStream L
  /-- The milliseconds since the start. -/
  now : Nat
  /-- When the clock wakes the loop, if it does not wait for its connection. -/
  due : Option Nat
  /-- The phases that the loop has entered, each with its time, the first first. -/
  log : List (Nat × LoopPhase)
  /-- The calls that it has made, the first first. -/
  calls : List (Call L)

/-- What can happen to a stream under way. -/
inductive StreamMove (L : Type) where
  /-- The connection has something for the loop, which goes on with it. -/
  | arrived (arrival : Arrival)
  /-- The clock runs, and wakes the loop if that is due. -/
  | passed (milliseconds : Nat)
  /-- The owner changes who listens. -/
  | changed (change : RegistryMove L)
  /-- The stream is closed, or its owner is gone. -/
  | closed
  /-- A loop that is told to end is broken off where it waits. -/
  | aborted

namespace StreamCourse

variable {L : Type}

/-- The loop is due at once, and will then ask for its first connection. -/
def start (backoff : Backoff) : StreamCourse L := ⟨.start backoff, 0, some 0, [], []⟩

/-- The loop goes on with something that arrives. -/
def takeIn (c : StreamCourse L) (arrival : Arrival) : StreamCourse L :=
  { c with
    stream := (c.stream.arrive arrival).1
    due := (c.stream.arrive arrival).1.loop.phase.due c.now
    calls := c.calls ++ (c.stream.arrive arrival).2 }

/-- The loop has entered the phase that it is in. -/
def entered (c : StreamCourse L) : StreamCourse L :=
  { c with log := c.log ++ [(c.now, c.stream.loop.phase)] }

/-- The clock wakes the loop. It enters a phase in any case: the first time it wakes it asks for a
    connection, and later its delay is over. -/
def wake (c : StreamCourse L) (time : Nat) : StreamCourse L :=
  ({ c with now := time }.takeIn .delayOver).entered

/-- What is done to the listeners, or to the stream as a whole. -/
def alter (c : StreamCourse L) (change : EventStream L → EventStream L) : StreamCourse L :=
  { c with stream := change c.stream }

/-- A loop that is told to end does so before it looks at what there is. -/
theorem takeIn_told {c : StreamCourse L} (h : c.stream.cancelled = true) (arrival : Arrival) :
    c.takeIn arrival = { c with stream := c.stream.stop, due := none } := by
  unfold takeIn
  rw [EventStream.arrive_told h, List.append_nil]
  rfl

theorem takeIn_loop {c : StreamCourse L} (h : c.stream.cancelled = false) (arrival : Arrival) :
    (c.takeIn arrival).stream.loop = (c.stream.loop.step arrival).1 := by
  show (c.stream.arrive arrival).1.loop = _
  rw [EventStream.arrive_open h]

variable [DecidableEq L]

/-- What a move does; one that has no place changes nothing. As long as the clock has to wake the
    loop there is no connection for anything to come from. -/
def next (c : StreamCourse L) : StreamMove L → StreamCourse L
  | .arrived arrival =>
    if c.due = none then
      let after := c.takeIn arrival
      if after.stream.loop.phase = c.stream.loop.phase then after else after.entered
    else c
  | .passed milliseconds =>
    let later := c.now + milliseconds
    match c.due with
    | some time => if time ≤ later then { c.wake time with now := later } else { c with now := later }
    | none => { c with now := later }
  | .changed change => c.alter fun s => s.change change
  | .closed => c.alter EventStream.close
  | .aborted =>
    if c.stream.cancelled then
      { c with stream := { c.stream with loop := { c.stream.loop with phase := .stopped } }, due := none }
    else c

def run (c : StreamCourse L) (moves : List (StreamMove L)) : StreamCourse L := moves.foldl next c

omit [DecidableEq L] in
/-- When the loop has asked for connections. -/
def attempts (c : StreamCourse L) : List Nat :=
  c.log.filterMap fun (time, phase) => if phase = .connecting then some time else none

omit [DecidableEq L] in
theorem attempts_entered (c : StreamCourse L) :
    c.entered.attempts =
      c.attempts ++ if c.stream.loop.phase = .connecting then [c.now] else [] := by
  unfold attempts entered
  rw [List.filterMap_append]
  by_cases h : c.stream.loop.phase = .connecting <;> simp [h]

omit [DecidableEq L] in
theorem attempts_entered_stopped {c : StreamCourse L} (h : c.stream.loop.phase = .stopped) :
    c.entered.attempts = c.attempts := by
  rw [attempts_entered, h]
  exact List.append_nil _

/-- If no delay is due, an arrival is taken in, and is no attempt unless the loop asks for a
    connection by it. -/
theorem next_arrived {c : StreamCourse L} (hdue : c.due = none) {arrival : Arrival}
    (h : (c.takeIn arrival).stream.loop.phase = .connecting → c.stream.loop.phase = .connecting) :
    ∃ log, c.next (.arrived arrival) = { c.takeIn arrival with log := log } ∧
      (c.next (.arrived arrival)).attempts = c.attempts := by
  simp only [next, if_pos hdue]
  split
  · exact ⟨c.log, rfl, rfl⟩
  · next hne =>
    refine ⟨(c.takeIn arrival).entered.log, rfl, ?_⟩
    rw [attempts_entered, if_neg fun hp => hne (hp.trans (h hp).symm), List.append_nil]
    rfl

theorem next_passed_due {c : StreamCourse L} {time milliseconds : Nat} (hdue : c.due = some time)
    (h : time ≤ c.now + milliseconds) :
    c.next (.passed milliseconds) = { c.wake time with now := c.now + milliseconds } := by
  simp only [next, hdue, if_pos h]

theorem next_passed_idle {c : StreamCourse L} {milliseconds : Nat}
    (h : ∀ time, c.due = some time → c.now + milliseconds < time) :
    c.next (.passed milliseconds) = { c with now := c.now + milliseconds } := by
  simp only [next]
  split
  · next time hdue => rw [if_neg (Nat.not_le.2 (h time hdue))]
  · rfl

theorem run_append (c : StreamCourse L) (first later : List (StreamMove L)) :
    c.run (first ++ later) = (c.run first).run later := List.foldl_append

theorem run_concat (c : StreamCourse L) (moves : List (StreamMove L)) (move : StreamMove L) :
    c.run (moves ++ [move]) = (c.run moves).next move := run_append c moves [move]

end StreamCourse
end LightningLottery
