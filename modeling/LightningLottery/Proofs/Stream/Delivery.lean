/-
  Which frames of which connections reach which listeners.

  * `Delivery`: a stream that meets with connections, and what it has made of them so far.
  * `Delivery.InOrder`, `Delivery.Advance`: it dispatches the frames in their order, step by step.
  * `Delivery.run_attempt`: a timeline makes the same of the connection.
  * `Delivery.Dispatches`: a frame calls those who listen when it comes.
  * `delivered_exactly_once`: the frames are those of the connections, one after the other, and each
    is dispatched once.
-/
import Mathlib.Algebra.Ring.Nat
import LightningLottery.Proofs.Stream.Arrival
import LightningLottery.Proofs.Stream.Connection
import LightningLottery.Proofs.Stream.Receiving
import LightningLottery.Proofs.Stream.Registering

namespace LightningLottery

/-! ## Deliveries -/

/-- A stream with the connections that it meets, and what it has made of them so far. -/
structure Delivery (L : Type) where
  stream : EventStream L
  /-- What the next attempts find. -/
  script : List Connection
  /-- What the connection still has to give. -/
  items : List (Except StreamFault Frame)
  /-- The frames that the loop has dispatched, the first first. -/
  dispatched : List Frame
  /-- The calls that it has made, the first first. -/
  calls : List (Call L)

inductive DeliveryMove (L : Type) where
  /-- The loop goes on with what is there for it. -/
  | wentOn
  /-- The owner of the stream changes who listens. -/
  | changed (change : RegistryMove L)

def DeliveryMove.change? {L : Type} : DeliveryMove L → Option (RegistryMove L)
  | .wentOn => none
  | .changed change => some change

namespace Delivery

variable {L : Type}

def start (backoff : Backoff) (script : List Connection) : Delivery L :=
  ⟨.start backoff, script, [], [], []⟩

def takeIn (d : Delivery L) (arrival : Arrival) : Delivery L :=
  { d with
    stream := (d.stream.arrive arrival).1
    calls := d.calls ++ (d.stream.arrive arrival).2 }

/-- The loop goes on: with the next attempt, with the next item of its connection, or because its
    delay is over. An attempt beyond the script is never answered. -/
def goOn (d : Delivery L) : Delivery L :=
  match d.stream.loop.phase with
  | .connecting =>
    match d.script with
    | [] => d
    | connection :: script =>
      match connection.items with
      | .error fault => { d with script := script }.takeIn (.refused fault)
      | .ok items => { d with script := script, items := items }.takeIn .opened
  | .reading =>
    match d.items with
    | [] => d.takeIn (.dropped .closedByServer)
    | .error fault :: _ => { d with items := [] }.takeIn (.dropped fault)
    | .ok frame :: items =>
      { d with items := items, dispatched := d.dispatched ++ [frame] }.takeIn (.frame frame)
  | .waiting _ => d.takeIn .delayOver
  | .stopped => d

def next [DecidableEq L] (d : Delivery L) : DeliveryMove L → Delivery L
  | .wentOn => d.goOn
  | .changed change => { d with stream := d.stream.change change }

def run [DecidableEq L] (d : Delivery L) (moves : List (DeliveryMove L)) : Delivery L :=
  moves.foldl next d

/-! ## Frames in their order -/

/-- The frames that are still to come. -/
def toCome (d : Delivery L) : List Frame :=
  beforeError d.items ++ d.script.flatMap Connection.delivers

/-- How often the loop can still go on. -/
def left (d : Delivery L) : Nat :=
  (d.script.map Connection.steps).sum +
    match d.stream.loop.phase with
    | .reading => (beforeError d.items).length + 2
    | .waiting _ => 1
    | _ => 0

theorem left_connecting {d : Delivery L} (hp : d.stream.loop.phase = .connecting) :
    d.left = (d.script.map Connection.steps).sum := by rw [left, hp]; rfl

theorem left_reading {d : Delivery L} (hp : d.stream.loop.phase = .reading) :
    d.left = (d.script.map Connection.steps).sum + ((beforeError d.items).length + 2) := by
  rw [left, hp]

theorem left_waiting {d : Delivery L} {delay : Duration}
    (hp : d.stream.loop.phase = .waiting delay) :
    d.left = (d.script.map Connection.steps).sum + 1 := by rw [left, hp]

/-- What is dispatched and what is still to come are the frames of a script, in their order. -/
structure InOrder (frames : List Frame) (d : Delivery L) : Prop where
  open_ : d.stream.cancelled = false
  live : d.stream.loop.phase ≠ .stopped
  /-- Only an open connection has something to give. -/
  idle : d.stream.loop.phase ≠ .reading → d.items = []
  order : d.dispatched ++ d.toCome = frames

theorem start_inOrder (backoff : Backoff) (script : List Connection) :
    (start backoff script : Delivery L).InOrder (script.flatMap Connection.delivers) :=
  ⟨rfl, nofun, fun _ => rfl, rfl⟩

variable {d : Delivery L} {frames : List Frame}

/-- When the loop cannot go on, all frames are dispatched. -/
theorem InOrder.dispatched_of_left (h : d.InOrder frames) (hleft : d.left = 0) :
    d.dispatched = frames := by
  have hscript : d.script = [] := by
    rcases hs : d.script with _ | ⟨connection, script⟩
    · rfl
    · have hsteps : 2 ≤ connection.steps := by
        rw [Connection.steps]
        split <;> omega
      rw [left, hs, List.map_cons, List.sum_cons] at hleft
      omega
  have hitems : d.items = [] := h.idle fun hp => by
    rw [left_reading hp] at hleft
    omega
  have hcome : d.toCome = [] := by rw [toCome, hitems, hscript]; rfl
  have horder := h.order
  rwa [hcome, List.append_nil] at horder

theorem takeIn_frame (hc : d.stream.cancelled = false) (hp : d.stream.loop.phase = .reading)
    (frame : Frame) :
    d.takeIn (.frame frame) =
      { d with calls := d.calls ++ EventStream.calls d.stream.registry frame } := by
  have hstream : (d.stream.arrive (.frame frame)).1 = d.stream := by
    rw [EventStream.arrive_open hc]
    simp only [ConnectionLoop.step, hp, List.foldl_nil]
  have hlive : d.stream.isLive = true := by rw [EventStream.isLive, hp, hc]; rfl
  rw [takeIn, hstream, EventStream.arrive_calls]
  exact congrArg (fun calls => { d with calls := d.calls ++ calls }) (if_pos hlive)

theorem takeIn_other (hc : d.stream.cancelled = false) (arrival : Arrival)
    (h : ∀ frame, arrival ≠ .frame frame) {loop : ConnectionLoop}
    (hstep : (d.stream.loop.step arrival).1 = loop) :
    ∃ state, d.takeIn arrival =
      { d with stream := { d.stream with loop := loop, state := state } } := by
  have hcalls : (d.stream.arrive arrival).2 = [] := by
    rw [EventStream.arrive_calls]
    cases arrival with
    | frame frame => exact absurd rfl (h frame)
    | _ => rfl
  refine ⟨(d.stream.loop.step arrival).2.foldl StreamState.apply d.stream.state, ?_⟩
  rw [takeIn, hcalls, List.append_nil, EventStream.arrive_open hc, hstep]

/-- What one step of the loop does: it dispatches the next frame and leaves the stream as it is, or
    it dispatches nothing, calls nobody and leaves the listeners alone. -/
structure Advance (frames : List Frame) (d after : Delivery L) : Prop where
  inOrder : after.InOrder frames
  left : after.left = d.left - 1
  effect :
    (after.dispatched = d.dispatched ∧ after.calls = d.calls ∧
      after.stream.registry = d.stream.registry) ∨
    ∃ frame, after.dispatched = d.dispatched ++ [frame] ∧ after.stream = d.stream ∧
      after.calls = d.calls ++ EventStream.calls d.stream.registry frame

namespace InOrder

theorem asksInVain (h : d.InOrder frames) (hp : d.stream.loop.phase = .connecting)
    (hs : d.script = []) : Advance frames d d where
  inOrder := h
  left := by rw [left_connecting hp, hs]; rfl
  effect := Or.inl ⟨rfl, rfl, rfl⟩

variable {connection : Connection} {script : List Connection}

theorem isRefused (h : d.InOrder frames) (hp : d.stream.loop.phase = .connecting)
    (hs : d.script = connection :: script) {fault : StreamFault}
    (hf : connection.items = .error fault) :
    Advance frames d ({ d with script := script }.takeIn (.refused fault)) := by
  have hitems : d.items = [] := h.idle (hp ▸ nofun)
  have order := h.order
  rw [toCome, hitems, hs, List.flatMap_cons, Connection.delivers_refused hf] at order
  have hstep : (d.stream.loop.step (.refused fault)).1 = d.stream.loop.fail.1 := by
    simp only [ConnectionLoop.step, hp]
  obtain ⟨state, hd⟩ :=
    takeIn_other (d := { d with script := script }) h.open_ (.refused fault) nofun hstep
  rw [hd]
  refine ⟨⟨h.open_, nofun, fun _ => hitems, ?_⟩, ?_, Or.inl ⟨rfl, rfl, rfl⟩⟩
  · rw [toCome, hitems]
    exact order
  · have hsteps : connection.steps = 2 := by rw [Connection.steps, hf]
    rw [left_waiting rfl, left_connecting hp, hs, List.map_cons, List.sum_cons, hsteps]
    dsimp only
    omega

theorem opens (h : d.InOrder frames) (hp : d.stream.loop.phase = .connecting)
    (hs : d.script = connection :: script) {items : List (Except StreamFault Frame)}
    (hf : connection.items = .ok items) :
    Advance frames d ({ d with script := script, items := items }.takeIn .opened) := by
  have order := h.order
  rw [toCome, h.idle (hp ▸ nofun), hs, List.flatMap_cons, Connection.delivers_opened hf] at order
  have hstep : (d.stream.loop.step .opened).1 = ⟨.reading, d.stream.loop.backoff.reset⟩ := by
    simp only [ConnectionLoop.step, hp]
  obtain ⟨state, hd⟩ :=
    takeIn_other (d := { d with script := script, items := items }) h.open_ .opened nofun hstep
  rw [hd]
  refine ⟨⟨h.open_, nofun, fun hn => absurd rfl hn, order⟩, ?_, Or.inl ⟨rfl, rfl, rfl⟩⟩
  have hsteps : connection.steps = (beforeError items).length + 3 := by rw [Connection.steps, hf]
  rw [left_reading rfl, left_connecting hp, hs, List.map_cons, List.sum_cons, hsteps]
  dsimp only
  omega

/-- At the end or the first error of a connection, nothing behind it is dispatched. -/
theorem isDown (h : d.InOrder frames) (hp : d.stream.loop.phase = .reading)
    (hi : beforeError d.items = []) (fault : StreamFault) :
    Advance frames d ({ d with items := [] }.takeIn (.dropped fault)) := by
  have order := h.order
  rw [toCome, hi] at order
  have hstep : (d.stream.loop.step (.dropped fault)).1 = d.stream.loop.fail.1 := by
    simp only [ConnectionLoop.step, hp]
  obtain ⟨state, hd⟩ :=
    takeIn_other (d := { d with items := [] }) h.open_ (.dropped fault) nofun hstep
  rw [hd]
  refine ⟨⟨h.open_, nofun, fun _ => rfl, order⟩, ?_, Or.inl ⟨rfl, rfl, rfl⟩⟩
  rw [left_waiting rfl, left_reading hp, hi]
  rfl

theorem reads (h : d.InOrder frames) (hp : d.stream.loop.phase = .reading) {frame : Frame}
    {items : List (Except StreamFault Frame)} (hi : d.items = .ok frame :: items) :
    Advance frames d
      ({ d with items := items, dispatched := d.dispatched ++ [frame] }.takeIn (.frame frame)) := by
  have order := h.order
  rw [toCome, hi, beforeError, List.cons_append, List.append_cons] at order
  let read : Delivery L := { d with items := items, dispatched := d.dispatched ++ [frame] }
  let after : Delivery L :=
    { read with calls := d.calls ++ EventStream.calls d.stream.registry frame }
  have hafter : read.takeIn (.frame frame) = after := takeIn_frame (d := read) h.open_ hp frame
  show Advance frames d (read.takeIn (.frame frame))
  rw [hafter]
  refine ⟨⟨h.open_, h.live, fun hn => absurd hp hn, order⟩, ?_, Or.inr ⟨frame, rfl, rfl, rfl⟩⟩
  rw [left_reading (d := after) hp, left_reading hp, hi, beforeError, List.length_cons]
  dsimp only [after, read]
  omega

theorem wakes (h : d.InOrder frames) {delay : Duration}
    (hp : d.stream.loop.phase = .waiting delay) : Advance frames d (d.takeIn .delayOver) := by
  have hstep : (d.stream.loop.step .delayOver).1 = ⟨.connecting, d.stream.loop.backoff⟩ := by
    simp only [ConnectionLoop.step, hp]
  obtain ⟨state, hd⟩ := takeIn_other h.open_ .delayOver nofun hstep
  rw [hd]
  refine ⟨⟨h.open_, nofun, fun _ => h.idle (hp ▸ nofun), h.order⟩, ?_, Or.inl ⟨rfl, rfl, rfl⟩⟩
  rw [left_connecting rfl, left_waiting hp]
  rfl

/-- **One step of the loop is an `Advance`**, in every phase. -/
theorem goOn (h : d.InOrder frames) : Advance frames d d.goOn := by
  unfold Delivery.goOn
  split
  · next hp =>
    split
    · next hs => exact h.asksInVain hp hs
    · next connection script hs =>
      split
      · next fault hf => exact h.isRefused hp hs hf
      · next items hf => exact h.opens hp hs hf
  · next hp =>
    split
    · next hi =>
      have hdown := h.isDown hp (by rw [hi]; rfl) .closedByServer
      rwa [← hi] at hdown
    · next fault items hi => exact h.isDown hp (by rw [hi]; rfl) fault
    · next frame items hi => exact h.reads hp hi
  · next delay hp => exact h.wakes hp
  · next hp => exact absurd hp h.live

variable [DecidableEq L]

theorem change (h : d.InOrder frames) (change : RegistryMove L) :
    (d.next (.changed change)).InOrder frames ∧ (d.next (.changed change)).left = d.left := by
  rw [next, EventStream.change_eq]
  exact ⟨⟨h.open_, h.live, h.idle, h.order⟩, rfl⟩

theorem run (h : d.InOrder frames) (moves : List (DeliveryMove L)) :
    (d.run moves).InOrder frames ∧
      (d.run moves).left = d.left - moves.countP (·.change?.isNone) := by
  induction moves generalizing d with
  | nil => exact ⟨h, rfl⟩
  | cons move moves ih =>
    cases move with
    | wentOn =>
      obtain ⟨hrun, hleft⟩ := ih h.goOn.inOrder
      refine ⟨hrun, hleft.trans ?_⟩
      rw [h.goOn.left, List.countP_cons_of_pos rfl]
      omega
    | changed change =>
      obtain ⟨hd, hsame⟩ := h.change change
      obtain ⟨hrun, hleft⟩ := ih hd
      refine ⟨hrun, hleft.trans ?_⟩
      rw [hsame, List.countP_cons_of_neg (by exact Bool.false_ne_true)]

theorem registry_run (h : d.InOrder frames) (moves : List (DeliveryMove L)) :
    (d.run moves).stream.registry =
      (moves.filterMap DeliveryMove.change?).foldl Registry.change d.stream.registry := by
  induction moves generalizing d with
  | nil => rfl
  | cons move moves ih =>
    cases move with
    | wentOn =>
      have hsame : d.goOn.stream.registry = d.stream.registry := by
        rcases h.goOn.effect with ⟨-, -, hr⟩ | ⟨frame, -, hs, -⟩
        · exact hr
        · rw [hs]
      rw [List.filterMap_cons_none rfl, ← hsame]
      exact ih h.goOn.inOrder
    | changed change =>
      have hreg : (d.next (.changed change)).stream.registry = d.stream.registry.change change := by
        rw [next, EventStream.change_eq]
      rw [List.filterMap_cons_some (f := DeliveryMove.change?) rfl, List.foldl_cons, ← hreg]
      exact ih (h.change change).1

end InOrder

/-! ## Timelines -/

variable [DecidableEq L]

/-- A loop that reads does with its connection what a timeline does with the same arrivals. -/
theorem run_reading (hc : d.stream.cancelled = false) (hp : d.stream.loop.phase = .reading)
    {t : Timeline L} (ht : t.stream = d.stream) {items : List (Except StreamFault Frame)}
    (hi : d.items = items) :
    let arrivals := (beforeError items).map .frame ++ [.dropped (firstFault items)]
    let after := d.run (.replicate arrivals.length .wentOn)
    after.stream = (t.arriveAll arrivals).1.stream ∧
      after.calls = d.calls ++ (t.arriveAll arrivals).2 := by
  induction items generalizing d t with
  | nil =>
    have hstep : d.goOn = d.takeIn (.dropped .closedByServer) := by
      simp only [goOn, hp, hi]
    show d.goOn.stream = (t.stream.arrive _).1 ∧
      d.goOn.calls = d.calls ++ ((t.stream.arrive _).2 ++ [])
    rw [hstep, ht, List.append_nil]
    exact ⟨rfl, rfl⟩
  | cons item items ih =>
    cases item with
    | error fault =>
      have hstep : d.goOn = { d with items := [] }.takeIn (.dropped fault) := by
        simp only [goOn, hp, hi]
      show d.goOn.stream = (t.stream.arrive _).1 ∧
        d.goOn.calls = d.calls ++ ((t.stream.arrive _).2 ++ [])
      rw [hstep, ht, List.append_nil]
      exact ⟨rfl, rfl⟩
    | ok frame =>
      let read : Delivery L := { d with items := items, dispatched := d.dispatched ++ [frame] }
      have hread : d.goOn = read.takeIn (.frame frame) := by
        simp only [goOn, hp, hi, read]
      have hsame : d.goOn.stream = d.stream := by
        rw [hread, takeIn_frame (d := read) hc hp]
      have hstream : (t.arrive (.frame frame)).1.stream = d.goOn.stream := by
        show (t.stream.arrive (.frame frame)).1 = _
        rw [hread, ht]
        rfl
      have hcalls : d.goOn.calls = d.calls ++ (t.arrive (.frame frame)).2 := by
        show _ = d.calls ++ (t.stream.arrive (.frame frame)).2
        rw [hread, ht]
        rfl
      obtain ⟨hlast, hall⟩ := ih (hsame ▸ hc) (hsame ▸ hp) hstream (hread ▸ rfl)
      refine ⟨hlast, hall.trans ?_⟩
      rw [hcalls, List.append_assoc]
      rfl

/-- **A loop that asks for a connection does what a timeline does with the attempt.** -/
theorem run_attempt (hc : d.stream.cancelled = false) (hp : d.stream.loop.phase = .connecting)
    {connection : Connection} {script : List Connection} (hs : d.script = connection :: script)
    {t : Timeline L} (ht : t.stream = d.stream) :
    let arrivals := connection.attempt.arrivals
    let after := d.run (.replicate arrivals.length .wentOn)
    after.stream = (t.arriveAll arrivals).1.stream ∧
      after.calls = d.calls ++ (t.arriveAll arrivals).2 := by
  rcases hf : connection.items with fault | items
  · have hattempt : connection.attempt.arrivals = [.refused fault] := by
      rw [Connection.attempt, hf]
      rfl
    have hstep : d.goOn = { d with script := script }.takeIn (.refused fault) := by
      simp only [goOn, hp, hs, hf]
    rw [hattempt]
    show d.goOn.stream = (t.stream.arrive _).1 ∧
      d.goOn.calls = d.calls ++ ((t.stream.arrive _).2 ++ [])
    rw [hstep, ht, List.append_nil]
    exact ⟨rfl, rfl⟩
  · have hattempt : connection.attempt.arrivals =
        .opened :: ((beforeError items).map .frame ++ [.dropped (firstFault items)]) := by
      rw [Connection.attempt, hf]
      rfl
    have hstep : d.goOn = { d with script := script, items := items }.takeIn .opened := by
      simp only [goOn, hp, hs, hf]
    have hopen : (d.stream.arrive .opened).1.loop.phase = .reading := by
      rw [EventStream.arrive_open hc]
      simp only [ConnectionLoop.step, hp]
    have hstream : (t.arrive .opened).1.stream = d.goOn.stream := by
      show (t.stream.arrive .opened).1 = _
      rw [hstep, ht]
      rfl
    have hcalls : d.goOn.calls = d.calls ++ (t.arrive .opened).2 := by
      show _ = d.calls ++ (t.stream.arrive .opened).2
      rw [hstep, ht]
      rfl
    have hlive : d.goOn.stream.cancelled = false := by
      rw [hstep]
      exact (EventStream.arrive_cancelled _ _).trans hc
    have hphase : d.goOn.stream.loop.phase = .reading := by
      rw [hstep]
      exact hopen
    have hitems : d.goOn.items = items := by
      rw [hstep]
      rfl
    obtain ⟨hlast, hall⟩ := run_reading hlive hphase hstream hitems
    rw [hattempt]
    refine ⟨hlast, hall.trans ?_⟩
    rw [hcalls, List.append_assoc]
    rfl

/-! ## Frames and calls -/

/-- A frame is dispatched: the stream stays as it is, and those who listen are called. -/
structure Dispatches (d after : Delivery L) (frame : Frame) : Prop where
  frames : after.dispatched = d.dispatched ++ [frame]
  stream : after.stream = d.stream
  calls : ∃ calls, d.stream.registry.Dispatches frame calls ∧ after.calls = d.calls ++ calls

/-- **Each frame of each connection is dispatched exactly once, in order** (`Delivery.Dispatches`):
    it calls the listeners that are registered for its event at that moment, with the JSON value of
    its data, and each makes of it what `Listener.Hears` says. Subscribing and unsubscribing do what
    `EventStream.Subscribes` and `EventStream.Unsubscribes` say. -/
theorem delivered_exactly_once (Tag : Type) [DecidableEq Tag] (backoff : Backoff)
    (script : List Connection) (moves : List (DeliveryMove (Listener Tag))) :
    let frames := script.flatMap Connection.delivers
    let registry := (moves.filterMap DeliveryMove.change?).foldl Registry.change .empty
    let d := (start backoff script).run moves
    (d.dispatched <+: frames ∧
      ((script.map Connection.steps).sum ≤ moves.countP (·.change?.isNone) →
        d.dispatched = frames)) ∧
    (d.stream.registry = registry ∧ registry.Tidy ∧ d.stream.Subscribes ∧
      ∀ id, d.stream.Unsubscribes id) ∧
    (∀ move, let after := d.next move
      (after.dispatched = d.dispatched ∧ after.calls = d.calls) ∨
        move = .wentOn ∧ ∃ frame, d.Dispatches after frame) ∧
    (∀ trackers, Listener.HearAll trackers d.calls (Listener.receiveAll trackers d.calls).1
      (Listener.receiveAll trackers d.calls).2) ∧
    (∀ v : Json, v.Exact Json.maxDepth → Json.parse (utf8 v.compact) = .ok v) ∧
    ∀ (event : EventType) data value told, event.Writes data value told →
      Json.parse (utf8 data) = .ok value ∧ event.Reads value value told := by
  intro frames registry d
  have hstart : (start backoff script : Delivery (Listener Tag)).InOrder frames :=
    start_inOrder backoff script
  obtain ⟨hd, hleft⟩ := hstart.run moves
  have hregistry : d.stream.registry = registry := hstart.registry_run moves
  have htidy : registry.Tidy := Registry.tidy_empty.foldl _
  refine ⟨⟨?_, fun hsteps => ?_⟩, ⟨hregistry, htidy, EventStream.subscribes (hregistry ▸ htidy),
      EventStream.unsubscribes (hregistry ▸ htidy)⟩, fun move => ?_,
    fun trackers => Listener.hearAll_receiveAll trackers d.calls, fun v => Json.Exact.parse_compact,
    fun event data value told => EventType.Writes.reads⟩
  · exact ⟨d.toCome, hd.order⟩
  · refine hd.dispatched_of_left ?_
    rw [hleft, left_connecting rfl]
    exact Nat.sub_eq_zero_of_le hsteps
  · cases move with
    | changed change => exact Or.inl ⟨rfl, rfl⟩
    | wentOn =>
      rcases hd.goOn.effect with ⟨hsame, hcalls, -⟩ | ⟨frame, hframe, hstream, hcalls⟩
      · exact Or.inl ⟨hsame, hcalls⟩
      · exact Or.inr ⟨rfl, frame, hframe, hstream, _, d.stream.registry.dispatches_calls frame, hcalls⟩

end Delivery
end LightningLottery
