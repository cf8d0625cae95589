/-
  The event stream over HTTP.

  * `eventRequest`: the request that opens it.
  * `Reception`: what comes of that request: no reply, a refusal, or bytes piece by piece.
  * `Reception.arrivals`: what arrives at the connection loop, each connection being decoded afresh.
-/
import LightningLottery.Api.Exchange
import LightningLottery.Stream.Timeline

namespace LightningLottery

/-- The request that opens the event stream at a URL. -/
def eventRequest (url : Url) : Request where
  method := .get
  url := url
  accept := "text/event-stream"
  authorization := none
  contentType := none
  userAgent := none
  cacheControl := some "no-cache"

/-- What comes of a request for the event stream. -/
inductive Reception where
  | unanswered
  /-- A reply, the pieces of its body, and whether it breaks off after them. -/
  | answered (status : UInt16) (pieces : List Bytes) (broken : Bool)
  deriving DecidableEq, Repr

namespace Reception

/-- The frames of a connection, read by a decoder of its own. -/
def frames (pieces : List Bytes) : List Frame := (FrameDecoder.initial.feedAll pieces).2.flatten

/-- What an attempt to connect finds. -/
def attempt : Reception → Attempt
  | .unanswered => .refused .connect
  | .answered status pieces broken =>
    if isSuccess status then .served (frames pieces) (if broken then .read else .closedByServer)
    else .refused (.refused (statusText status))

/-- What arrives at the connection loop. -/
def arrivals (r : Reception) : List Arrival := r.attempt.arrivals

/-- The frames that are received, each as such, and the error that ends them, if there is one. -/
def items (r : Reception) : List (Except Error Frame) :=
  match r.attempt with
  | .refused fault => [.error (.stream fault)]
  | .served frames .read => frames.map .ok ++ [.error (.stream .read)]
  | .served frames _ => frames.map .ok
  | _ => []

end Reception
end LightningLottery
