/-
  What connections of an event stream give.

  * `beforeError`, `firstFault`: what comes before the first error, and that error.
  * `FrameDecoder.items`: the frames and errors that the body of a reply gives, piece by piece.
  * `Connection`: what an attempt to connect finds, with all that it will give, frames or bytes.
  * `Connection.delivers`: the frames that are to be had from it, before its end or its first error.
  * `attempt_replied`: of a reply it is what the reply is for a timeline.
-/
import LightningLottery.Api.EventSource

namespace LightningLottery

/-! ## Errors -/

/-- What comes before the first error. -/
def beforeError {ε α : Type} : List (Except ε α) → List α
  | .ok a :: items => a :: beforeError items
  | _ => []

theorem beforeError_ok {ε α : Type} (first : List α) (items : List (Except ε α)) :
    beforeError (first.map .ok ++ items) = first ++ beforeError items := by
  induction first with
  | nil => rfl
  | cons a first ih => exact congrArg (a :: ·) ih

/-- The first error, and if there is none, that the server has closed the connection. -/
def firstFault {α : Type} : List (Except StreamFault α) → StreamFault
  | [] => .closedByServer
  | .ok _ :: items => firstFault items
  | .error fault :: _ => fault

theorem firstFault_ok {α : Type} (first : List α) (items : List (Except StreamFault α)) :
    firstFault (first.map .ok ++ items) = firstFault items := by
  induction first with
  | nil => rfl
  | cons a first ih => exact ih

/-! ## Bodies -/

/-- What a decoder makes of the pieces of a body: the frames that each piece completes, one by one,
    and each error where it is. -/
def FrameDecoder.items (decoder : FrameDecoder) :
    List (Except StreamFault Bytes) → List (Except StreamFault Frame)
  | [] => []
  | .ok piece :: pieces =>
    let (next, frames) := decoder.feed piece
    frames.map .ok ++ next.items pieces
  | .error fault :: pieces => .error fault :: decoder.items pieces

/-- The frames before the first error are those of the pieces before it. -/
theorem FrameDecoder.beforeError_items (decoder : FrameDecoder)
    (pieces : List (Except StreamFault Bytes)) :
    beforeError (decoder.items pieces) = (decoder.feedAll (beforeError pieces)).2.flatten := by
  induction pieces generalizing decoder with
  | nil => rfl
  | cons piece pieces ih =>
    cases piece with
    | error fault => rfl
    | ok piece =>
      show beforeError ((decoder.feed piece).2.map .ok ++ (decoder.feed piece).1.items pieces) =
        (decoder.feed piece).2 ++ ((decoder.feed piece).1.feedAll (beforeError pieces)).2.flatten
      rw [beforeError_ok, ih]

theorem FrameDecoder.firstFault_items (decoder : FrameDecoder)
    (pieces : List (Except StreamFault Bytes)) :
    firstFault (decoder.items pieces) = firstFault pieces := by
  induction pieces generalizing decoder with
  | nil => rfl
  | cons piece pieces ih =>
    cases piece with
    | error fault => rfl
    | ok piece =>
      show firstFault ((decoder.feed piece).2.map .ok ++ (decoder.feed piece).1.items pieces) = _
      rw [firstFault_ok, ih]
      rfl

/-! ## Connections -/

/-- What an attempt to connect finds. -/
inductive Connection where
  | refused (fault : StreamFault)
  /-- A connection that gives frames. -/
  | frames (items : List (Except StreamFault Frame))
  /-- A reply over HTTP, with a body that comes in pieces. -/
  | replied (status : UInt16) (pieces : List (Except StreamFault Bytes))

namespace Connection

/-- What the loop reads from the connection, if it opens. Bytes are read by a new decoder. -/
def items : Connection → Except StreamFault (List (Except StreamFault Frame))
  | .refused fault => .error fault
  | .frames items => .ok items
  | .replied status pieces =>
    if isSuccess status then .ok (FrameDecoder.initial.items pieces)
    else .error (.refused (statusText status))

/-- The frames that are to be had from the connection, before its end or its first error. -/
def delivers : Connection → List Frame
  | .refused _ => []
  | .frames items => beforeError items
  | .replied status pieces =>
    if isSuccess status then Reception.frames (beforeError pieces) else []

theorem delivers_refused {connection : Connection} {fault : StreamFault}
    (h : connection.items = .error fault) : connection.delivers = [] := by
  cases connection with
  | refused fault' => rfl
  | frames items => cases h
  | replied status pieces =>
    rw [items] at h
    split at h
    · cases h
    · next hs => exact if_neg hs

theorem delivers_opened {connection : Connection} {items : List (Except StreamFault Frame)}
    (h : connection.items = .ok items) : connection.delivers = beforeError items := by
  cases connection with
  | refused fault => cases h
  | frames items' => cases h; rfl
  | replied status pieces =>
    rw [Connection.items] at h
    split at h
    · next hs =>
      cases h
      rw [delivers, if_pos hs, FrameDecoder.beforeError_items, Reception.frames]
    · cases h

/-- How often the loop goes on from an attempt to the next one: the connection opens, gives its
    frames and is down, or is refused, and then the delay is over. -/
def steps (connection : Connection) : Nat :=
  match connection.items with
  | .error _ => 2
  | .ok items => (beforeError items).length + 3

/-- The connection as an attempt of a timeline finds it: up to its end or its first error. -/
def attempt (connection : Connection) : Attempt :=
  match connection.items with
  | .error fault => .refused fault
  | .ok items => .served (beforeError items) (firstFault items)

/-- A reply to the request for the event stream is the connection with its pieces. -/
theorem attempt_replied (status : UInt16) (pieces : List Bytes) (broken : Bool) :
    (replied status (pieces.map .ok ++ if broken then [.error .read] else [])).attempt =
      (Reception.answered status pieces broken).attempt := by
  by_cases hs : isSuccess status = true
  · have hframes : beforeError (FrameDecoder.initial.items
        (pieces.map .ok ++ if broken then [.error .read] else [])) = Reception.frames pieces := by
      rw [FrameDecoder.beforeError_items, beforeError_ok, Reception.frames]
      cases broken <;> exact congrArg
        (fun pieces => (FrameDecoder.initial.feedAll pieces).2.flatten) (List.append_nil pieces)
    have hfault : firstFault (FrameDecoder.initial.items
        (pieces.map .ok ++ if broken then [.error .read] else [])) =
          if broken then .read else .closedByServer := by
      rw [FrameDecoder.firstFault_items, firstFault_ok]
      cases broken <;> rfl
    simp only [attempt, items, Reception.attempt, if_pos hs, hframes, hfault]
  · simp only [attempt, items, Reception.attempt, if_neg hs]

end Connection

end LightningLottery
