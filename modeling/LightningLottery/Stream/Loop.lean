/-
  An event stream: a connection that is kept up, and listeners that outlive it.

  * `ConnectionLoop`: what the loop waits for, and its backoff; `ConnectionLoop.step` is what it
    does when something arrives.
  * `EventStream`: the loop, the published state and the listeners.
  * `EventStream.arrive`: takes in one arrival; gives the listeners it calls, each with the payload.
  * `EventStream.close`: ends the loop before its next step, and drops the listeners at once.
-/
import LightningLottery.Error
import LightningLottery.Json.Tree
import LightningLottery.Stream.Backoff
import LightningLottery.Stream.Frame
import LightningLottery.Stream.Registry
import LightningLottery.Stream.State

namespace LightningLottery

/-! ## The connection loop -/

/-- What the loop waits for. -/
inductive LoopPhase where
  /-- A connection that it has asked for. -/
  | connecting
  /-- The next frame. -/
  | reading
  /-- The end of a delay. -/
  | waiting (delay : Duration)
  /-- Nothing: it has ended. -/
  | stopped
  deriving DecidableEq, Repr

/-- What can arrive at the loop. -/
inductive Arrival where
  /-- The connection could not be opened. -/
  | refused (fault : StreamFault)
  | opened
  | frame (frame : Frame)
  /-- The connection ended, or reading from it failed. -/
  | dropped (fault : StreamFault)
  | delayOver
  deriving DecidableEq, Repr

/-- What the loop waits for, and its backoff. -/
structure ConnectionLoop where
  phase : LoopPhase
  backoff : Backoff
  deriving DecidableEq, Repr

namespace ConnectionLoop

/-- The loop asks for its first connection at once. -/
def start (backoff : Backoff) : ConnectionLoop := ⟨.connecting, backoff⟩

/-- After a failure the loop waits for as long as the backoff says. -/
def fail (loop : ConnectionLoop) : ConnectionLoop × List StreamSignal :=
  let (delay, backoff) := loop.backoff.onFailure
  (⟨.waiting delay, backoff⟩, [.failed, .retryScheduled])

/-- What the loop does when something arrives, and the signals that it gives. What it does not wait
    for passes it by. -/
def step (loop : ConnectionLoop) (arrival : Arrival) : ConnectionLoop × List StreamSignal :=
  match loop.phase, arrival with
  | .connecting, .refused _ => loop.fail
  | .connecting, .opened => (⟨.reading, loop.backoff.reset⟩, [.opened])
  | .reading, .dropped _ => loop.fail
  | .waiting _, .delayOver => ({ loop with phase := .connecting }, [.retryDue])
  | _, _ => (loop, [])

end ConnectionLoop

/-! ## Streams -/

/-- An event stream. -/
structure EventStream (L : Type) where
  registry : Registry L
  state : StreamState
  loop : ConnectionLoop
  /-- Whether the loop is told to end. -/
  cancelled : Bool
  deriving DecidableEq, Repr

/-- A listener and the payload it is called with. -/
abbrev Call (L : Type) := L × Json

namespace EventStream

variable {L : Type}

/-- A stream that starts to connect. -/
def start (backoff : Backoff) : EventStream L :=
  ⟨.empty, .connecting, .start backoff, false⟩

/-- The payload of a frame, if its data is well formed. -/
def payload? (frame : Frame) : Option Json := (Json.parse (utf8 frame.data)).toOption

/-- The calls that a frame leads to: one for each listener to its event, in order. Data that is
    not well formed calls nobody. -/
def calls (registry : Registry L) (frame : Frame) : List (Call L) :=
  match payload? frame with
  | some payload => (registry.listeners frame.event).map fun listener => (listener, payload)
  | none => []

/-- Whether the loop reads frames. -/
def isLive (s : EventStream L) : Bool := s.loop.phase == .reading && !s.cancelled

/-- Ends the loop. -/
def stop (s : EventStream L) : EventStream L :=
  { s with loop := { s.loop with phase := .stopped }, state := s.state.apply .shutdown }

/-- Takes in one arrival. A loop that is told to end does so first, and nothing else. -/
def arrive (s : EventStream L) (arrival : Arrival) : EventStream L × List (Call L) :=
  if s.cancelled then (s.stop, [])
  else
    let (loop, signals) := s.loop.step arrival
    let after := { s with loop := loop, state := signals.foldl StreamState.apply s.state }
    match s.loop.phase, arrival with
    | .reading, .frame frame => (after, calls s.registry frame)
    | _, _ => (after, [])

/-- Closes the stream: its loop ends before the next step, and no listener is left. -/
def close (s : EventStream L) : EventStream L :=
  { s with cancelled := true, state := s.state.apply .shutdown, registry := s.registry.clear }

/-- Drops every listener and keeps the connection. -/
def clearListeners (s : EventStream L) : EventStream L := { s with registry := s.registry.clear }

/-- Adds a listener of its own to an event. -/
def subscribe (s : EventStream L) (event : String) (listener : L) : EventStream L × Nat :=
  let (registry, id) := s.registry.subscribe event listener
  ({ s with registry := registry }, id)

/-- Adds a shared listener to an event, unless it is there. -/
def subscribeShared [DecidableEq L] (s : EventStream L) (event : String) (listener : L) :
    EventStream L × Nat :=
  let (registry, id) := s.registry.subscribeShared event listener
  ({ s with registry := registry }, id)

/-- Ends the subscription with this number; tells whether there was one. -/
def unsubscribe (s : EventStream L) (id : Nat) : EventStream L × Bool :=
  let (registry, found) := s.registry.unsubscribe id
  ({ s with registry := registry }, found)

/-- A stream in one line. -/
def describe (s : EventStream L) : String :=
  "EventStream \x7b state: " ++ s.state.name ++ ", .. \x7d"

end EventStream
end LightningLottery
