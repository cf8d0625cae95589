/-
  The state of an event stream, as it is published.

  * `StreamState`, `StreamSignal`: the states and what can happen in them.
  * `StreamState.on?`: the state after a signal, none where the signal has no place.
  * `StreamState.apply`: the same, where a signal without a place changes nothing.
-/

namespace LightningLottery

/-- The state of an event stream. -/
inductive StreamState where
  | connecting
  | opened
  | failed
  | reconnecting
  | closed
  deriving DecidableEq, Repr

/-- What can happen to an event stream. -/
inductive StreamSignal where
  | opened
  | failed
  | retryScheduled
  | retryDue
  | shutdown
  deriving DecidableEq, Repr

namespace StreamState

/-- The state after a signal. A closed stream stays closed; any other can be shut down. -/
def on? : StreamState → StreamSignal → Option StreamState
  | .closed, _ => none
  | _, .shutdown => some .closed
  | .connecting, .opened => some .opened
  | .connecting, .failed => some .failed
  | .opened, .failed => some .failed
  | .failed, .retryScheduled => some .reconnecting
  | .reconnecting, .retryDue => some .connecting
  | _, _ => none

/-- The state after a signal, which changes nothing where it has no place. -/
def apply (state : StreamState) (signal : StreamSignal) : StreamState :=
  (state.on? signal).getD state

/-- The name of a state. -/
def name : StreamState → String
  | .connecting => "Connecting"
  | .opened => "Open"
  | .failed => "Error"
  | .reconnecting => "Reconnecting"
  | .closed => "Closed"

end StreamState

end LightningLottery
