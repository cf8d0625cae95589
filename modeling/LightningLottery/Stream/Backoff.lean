/-
  How long to wait before connecting again.

  * `Duration`: a span of time in nanoseconds, up to a greatest one.
  * `Backoff`: the delay doubles with each failure, from the floor up to the ceiling.
  * `Backoff.onFailure`: the delay of this failure, and the backoff after it.
-/

namespace LightningLottery

/-- A span of time: at most 2⁶⁴ - 1 seconds and 999,999,999 nanoseconds. -/
structure Duration where
  nanoseconds : Nat
  lt_limit : nanoseconds < 18446744073709551616000000000
  deriving DecidableEq, Repr

namespace Duration

/-- The nanoseconds of a second. -/
def perSecond : Nat := 1000000000

/-- The nanoseconds of a millisecond. -/
def perMillisecond : Nat := 1000000

/-- The first number of nanoseconds that is no span of time. -/
def limit : Nat := 18446744073709551616000000000

/-- The span of so many nanoseconds, or the greatest one. -/
def ofNanoseconds (n : Nat) : Duration := ⟨min n (limit - 1), by
  unfold limit; omega⟩

/-- The span of seconds and nanoseconds. -/
def ofParts (seconds nanoseconds : Nat) : Duration :=
  ofNanoseconds (seconds * perSecond + nanoseconds)

/-- The whole seconds of a span. -/
def seconds (d : Duration) : Nat := d.nanoseconds / perSecond

/-- The nanoseconds of a span that its whole seconds leave over. -/
def subsecond (d : Duration) : Nat := d.nanoseconds % perSecond

/-- Twice a span, or the greatest one. -/
def double (d : Duration) : Duration := ofNanoseconds (d.nanoseconds * 2)

/-- The longer of two spans. -/
def longer (a b : Duration) : Duration := if a.nanoseconds ≤ b.nanoseconds then b else a

/-- The shorter of two spans. -/
def shorter (a b : Duration) : Duration := if a.nanoseconds ≤ b.nanoseconds then a else b

/-- The milliseconds of a span, a part of one counting as one. -/
def ceilMilliseconds (d : Duration) : Nat := (d.nanoseconds + (perMillisecond - 1)) / perMillisecond

end Duration

/-- The delays between attempts to connect. -/
structure Backoff where
  floor : Duration
  ceiling : Duration
  /-- The delay of the next failure. -/
  current : Duration
  deriving DecidableEq, Repr

namespace Backoff

/-- A backoff between two bounds; a ceiling below the floor is taken to be the floor. -/
def between (floor ceiling : Duration) : Backoff := ⟨floor, ceiling.longer floor, floor⟩

/-- The floor where none is set. -/
def defaultFloor : Duration := .ofParts 1 0

/-- The ceiling where none is set. -/
def defaultCeiling : Duration := .ofParts 60 0

/-- The backoff where no bounds are set. -/
def standard : Backoff := between defaultFloor defaultCeiling

/-- The delay of this failure, and the backoff after it. -/
def onFailure (b : Backoff) : Duration × Backoff :=
  (b.current, { b with current := b.current.double.shorter b.ceiling })

/-- The backoff after a connection opened. -/
def reset (b : Backoff) : Backoff := { b with current := b.floor }

end Backoff

end LightningLottery
