/-
  An event stream on a clock, with a script for what its attempts to connect find.

  * `Attempt`: what an attempt finds.
  * `Timeline`: the stream, the clock in milliseconds, and when the loop has to be woken.
  * `Timeline.advance`: lets the clock run, with everything that falls due on the way.
  * `Timeline.push`, `Timeline.breakOff`, `Timeline.close`: what happens between.
-/
import LightningLottery.Stream.Loop

namespace LightningLottery

/-- What an attempt to connect finds. -/
inductive Attempt where
  | refused (fault : StreamFault)
  /-- No answer ever comes. -/
  | unanswered
  /-- A connection that stays. -/
  | live
  /-- A connection that gives these frames and then is down. -/
  | served (frames : List Frame) (fault : StreamFault)
  deriving DecidableEq, Repr

/-- What arrives at the stream when an attempt finds this. -/
def Attempt.arrivals : Attempt → List Arrival
  | .refused fault => [.refused fault]
  | .unanswered => []
  | .live => [.opened]
  | .served frames fault => .opened :: frames.map .frame ++ [.dropped fault]

/-- A stream on a clock. -/
structure Timeline (L : Type) where
  stream : EventStream L
  /-- What the next attempts find; when none is left, a connection that stays. -/
  script : List Attempt
  /-- The milliseconds since the start. -/
  now : Nat
  /-- When the loop has to be woken. -/
  due : Option Nat
  /-- When the attempts were made. -/
  attempts : List Nat
  deriving DecidableEq, Repr

namespace Timeline

variable {L : Type}

/-- A stream whose first attempt is due at once. -/
def start (backoff : Backoff) (script : List Attempt) : Timeline L :=
  ⟨.start backoff, script, 0, some 0, []⟩

/-- Hands an arrival to the stream. If the stream starts to wait, it is due when its delay is over,
    a part of a millisecond counting as a whole one. -/
def arrive (t : Timeline L) (arrival : Arrival) : Timeline L × List (Call L) :=
  let (stream, calls) := t.stream.arrive arrival
  let due := match stream.loop.phase with
    | .waiting delay => some (t.now + delay.ceilMilliseconds)
    | _ => none
  ({ t with stream := stream, due := due }, calls)

/-- Hands over arrivals one after the other. -/
def arriveAll (t : Timeline L) : List Arrival → Timeline L × List (Call L)
  | [] => (t, [])
  | arrival :: arrivals =>
    let (next, calls) := t.arrive arrival
    let (last, more) := next.arriveAll arrivals
    (last, calls ++ more)

/-- Wakes the loop, which then makes an attempt that finds this. -/
def wake (t : Timeline L) (time : Nat) (attempt : Attempt) : Timeline L × List (Call L) :=
  { t with now := time, due := none, attempts := t.attempts ++ [time] }.arriveAll
    (.delayOver :: attempt.arrivals)

/-- Wakes the loop as often as it is due up to a time. Each attempt takes one item of the script,
    and the attempt after the last of them stays. -/
def runDue (limit : Nat) (t : Timeline L) : List Attempt → Timeline L × List (Call L)
  | [] =>
    match t.due with
    | some time => if time ≤ limit then t.wake time .live else (t, [])
    | none => (t, [])
  | attempt :: script =>
    match t.due with
    | some time =>
      if time ≤ limit then
        let (next, calls) := { t with script := script }.wake time attempt
        let (last, more) := runDue limit next script
        (last, calls ++ more)
      else (t, [])
    | none => (t, [])

/-- Does all that is due now. -/
def settle (t : Timeline L) : Timeline L × List (Call L) := runDue t.now t t.script

/-- Lets the clock run. -/
def advance (t : Timeline L) (milliseconds : Nat) : Timeline L × List (Call L) :=
  let limit := t.now + milliseconds
  let (next, calls) := runDue limit t t.script
  ({ next with now := limit }, calls)

/-- Sends a frame over the live connection, if there is one. -/
def push (t : Timeline L) (frame : Frame) : Timeline L × List (Call L) :=
  if t.stream.isLive then t.arrive (.frame frame) else (t, [])

/-- The live connection, if there is one, is down. -/
def breakOff (t : Timeline L) (fault : StreamFault) : Timeline L × List (Call L) :=
  if t.stream.isLive then
    let (next, calls) := t.arrive (.dropped fault)
    let (last, more) := next.settle
    (last, calls ++ more)
  else (t, [])

/-- Closes the stream; nothing is due any more. -/
def close (t : Timeline L) : Timeline L := { t with stream := t.stream.close, due := none }

end Timeline
end LightningLottery
