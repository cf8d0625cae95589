/-
  What follows when an event stream is closed.

  * `StreamCourse.Silenced`: the stream is closed, and its loop is told to end.
  * `next_silenced`: no move makes a silenced loop ask for a connection or call a listener, whatever
    its connection has ready and however much time passes.
  * `Timeline.Silenced`: the same on a timeline, where nothing is due any more.
  * `silent_after_close`: so it is from any moment of any run at which the stream is closed, and
    closing it once more does nothing but drop the listeners that have come since.
-/
import LightningLottery.Proofs.Stream.Timeline

namespace LightningLottery

/-! ## Registries without subscriptions -/

namespace Registry

variable {L : Type}

theorem count_clear (r : Registry L) (event : String) : r.clear.count event = 0 := rfl

theorem events_clear (r : Registry L) : r.clear.events = [] := by
  simp [events, clear]

theorem clear_of_nil {r : Registry L} (h : r.subscriptions = []) : r.clear = r := by
  obtain ⟨subscriptions, nextId⟩ := r
  cases h
  rfl

end Registry

namespace StreamCourse

variable {L : Type}

/-! ## Closed streams -/

/-- The stream is closed, and its loop is told to end. -/
structure Silenced (c : StreamCourse L) : Prop where
  told : c.stream.cancelled = true
  closed : c.stream.state = .closed

theorem Silenced.stop {c : StreamCourse L} (h : c.Silenced) :
    ({ c with stream := c.stream.stop, due := none } : StreamCourse L).Silenced :=
  ⟨h.told, (congrArg (fun state => state.apply .shutdown) h.closed).trans
    (StreamState.apply_shutdown _)⟩

variable [DecidableEq L]

omit [DecidableEq L] in
theorem close_silenced (c : StreamCourse L) : (c.alter EventStream.close).Silenced :=
  ⟨rfl, StreamState.apply_shutdown _⟩

theorem Silenced.change {c : StreamCourse L} (h : c.Silenced) (change : RegistryMove L) :
    (c.alter fun s => s.change change).Silenced := by
  rw [alter, EventStream.change_eq]
  exact ⟨h.told, h.closed⟩

omit [DecidableEq L] in
/-- The clock may still wake a silenced loop, which then ends. -/
theorem Silenced.wake {c : StreamCourse L} (h : c.Silenced) (time : Nat) :
    (c.wake time).Silenced ∧ (c.wake time).attempts = c.attempts ∧
      (c.wake time).calls = c.calls := by
  have hwake : c.wake time =
      ({ c with now := time, stream := c.stream.stop, due := none } : StreamCourse L).entered := by
    rw [StreamCourse.wake, takeIn_told (c := { c with now := time }) h.told]
  rw [hwake]
  exact ⟨⟨h.stop.told, h.stop.closed⟩, attempts_entered_stopped rfl, rfl⟩

/-- **Every move preserves `Silenced`**: no attempt to connect is made, and nobody is called. -/
theorem next_silenced {c : StreamCourse L} (h : c.Silenced) (move : StreamMove L) :
    (c.next move).Silenced ∧ (c.next move).attempts = c.attempts ∧
      (c.next move).calls = c.calls := by
  cases move with
  | arrived arrival =>
    simp only [next, takeIn_told h.told]
    split
    · split
      · exact ⟨h.stop, rfl, rfl⟩
      · exact ⟨⟨h.stop.told, h.stop.closed⟩, attempts_entered_stopped rfl, rfl⟩
    · exact ⟨h, rfl, rfl⟩
  | passed milliseconds =>
    simp only [next]
    split
    · next time _ =>
      split
      · obtain ⟨hs, ha, hc⟩ := h.wake time
        exact ⟨⟨hs.told, hs.closed⟩, ha, hc⟩
      · exact ⟨⟨h.told, h.closed⟩, rfl, rfl⟩
    · exact ⟨⟨h.told, h.closed⟩, rfl, rfl⟩
  | changed change => exact ⟨h.change change, rfl, rfl⟩
  | closed => exact ⟨c.close_silenced, rfl, rfl⟩
  | aborted =>
    simp only [next]
    split
    · exact ⟨⟨h.told, h.closed⟩, rfl, rfl⟩
    · exact ⟨h, rfl, rfl⟩

theorem run_silenced {c : StreamCourse L} (h : c.Silenced) (moves : List (StreamMove L)) :
    (c.run moves).Silenced ∧ (c.run moves).attempts = c.attempts ∧
      (c.run moves).calls = c.calls := by
  induction moves generalizing c with
  | nil => exact ⟨h, rfl, rfl⟩
  | cons move moves ih =>
    obtain ⟨hs, ha, hc⟩ := next_silenced h move
    obtain ⟨hs', ha', hc'⟩ := ih hs
    exact ⟨hs', ha'.trans ha, hc'.trans hc⟩

/-- To close a silenced stream is to drop its listeners. -/
theorem Silenced.next_closed {c : StreamCourse L} (h : c.Silenced) :
    c.next .closed = c.next (.changed .cleared) := by
  obtain ⟨⟨registry, state, loop, cancelled⟩, now, due, log, calls⟩ := c
  obtain ⟨rfl, rfl⟩ : cancelled = true ∧ state = .closed := ⟨h.told, h.closed⟩
  rfl

end StreamCourse

/-! ## Closed timelines -/

namespace Timeline

variable {L : Type} {t : Timeline L}

/-- The stream of a timeline is closed, and nothing is due. -/
structure Silenced (t : Timeline L) : Prop where
  told : t.stream.cancelled = true
  closed : t.stream.state = .closed
  idle : t.due = none

theorem close_silenced (t : Timeline L) : t.close.Silenced :=
  ⟨rfl, StreamState.apply_shutdown _, rfl⟩

theorem Silenced.runDue (h : t.Silenced) (limit : Nat) (script : List Attempt) :
    Timeline.runDue limit t script = (t, []) :=
  runDue_idle (fun time hdue => by rw [h.idle] at hdue; cases hdue) script

theorem Silenced.not_isLive (h : t.Silenced) : ¬ t.stream.isLive = true := by
  rw [EventStream.isLive, h.told, Bool.not_true, Bool.and_false]
  exact Bool.false_ne_true

variable [DecidableEq L]

theorem Silenced.next (h : t.Silenced) (move : TimelineMove L) :
    (t.next move).1.Silenced ∧ (t.next move).1.attempts = t.attempts ∧ (t.next move).2 = [] := by
  cases move with
  | settled =>
    rw [Timeline.next, settle, h.runDue]
    exact ⟨h, rfl, rfl⟩
  | advanced milliseconds =>
    rw [Timeline.next, advance, h.runDue]
    exact ⟨⟨h.told, h.closed, h.idle⟩, rfl, rfl⟩
  | pushed frame =>
    rw [Timeline.next, push, if_neg h.not_isLive]
    exact ⟨h, rfl, rfl⟩
  | brokenOff fault =>
    rw [Timeline.next, breakOff, if_neg h.not_isLive]
    exact ⟨h, rfl, rfl⟩
  | closed => exact ⟨t.close_silenced, rfl, rfl⟩
  | changed change =>
    rw [Timeline.next, EventStream.change_eq]
    exact ⟨⟨h.told, h.closed, h.idle⟩, rfl, rfl⟩

theorem Silenced.run (h : t.Silenced) (moves : List (TimelineMove L)) :
    (t.run moves).1.Silenced ∧ (t.run moves).1.attempts = t.attempts ∧ (t.run moves).2 = [] := by
  induction moves generalizing t with
  | nil => exact ⟨h, rfl, rfl⟩
  | cons move moves ih =>
    obtain ⟨hs, ha, hc⟩ := h.next move
    obtain ⟨hs', ha', hc'⟩ := ih hs
    refine ⟨hs', ha'.trans ha, ?_⟩
    show (t.next move).2 ++ ((t.next move).1.run moves).2 = []
    rw [hc, hc', List.append_nil]

end Timeline

namespace StreamCourse

/-- **After `close` a stream stays closed and silent**, at whatever moment it is closed: it has no
    listeners, and whatever follows, it makes no attempt to connect and no call, and its state stays
    `closed`. A second `close` only clears the listeners that were added in between. The same holds
    of timelines. -/
theorem silent_after_close (L : Type) [DecidableEq L] (backoff : Backoff) :
    (∀ before : List (StreamMove L),
      let closed := ((start backoff).run before).next .closed
      (closed.stream.state = .closed ∧ (∀ event, closed.stream.registry.count event = 0) ∧
        closed.stream.registry.events = []) ∧
      ∀ after, let later := closed.run after
        later.attempts = closed.attempts ∧ later.calls = closed.calls ∧
          later.stream.state = .closed ∧
          later.next .closed = later.next (.changed .cleared) ∧
          (later.stream.registry.subscriptions = [] → later.next .closed = later)) ∧
    ∀ (script : List Attempt) (before : List (TimelineMove L)),
      let closed := ((Timeline.start backoff script).run before).1.close
      (closed.stream.state = .closed ∧ (∀ event, closed.stream.registry.count event = 0) ∧
        closed.stream.registry.events = []) ∧
      ∀ after, let later := closed.run after
        later.1.attempts = closed.attempts ∧ later.2 = [] ∧ later.1.stream.state = .closed := by
  refine ⟨fun before => ?_, fun script before => ?_⟩
  · intro closed
    have hclosed : closed.Silenced := close_silenced _
    refine ⟨⟨hclosed.closed, Registry.count_clear _, Registry.events_clear _⟩, fun after => ?_⟩
    intro later
    obtain ⟨hs, ha, hc⟩ := run_silenced hclosed after
    refine ⟨ha, hc, hs.closed, hs.next_closed, fun hnone => ?_⟩
    have hsame : later.stream.clearListeners = later.stream := by
      rw [EventStream.clearListeners, Registry.clear_of_nil hnone]
    rw [hs.next_closed]
    exact congrArg (fun stream => ({ later with stream := stream } : StreamCourse L)) hsame
  · intro closed
    have hclosed : closed.Silenced := Timeline.close_silenced _
    refine ⟨⟨hclosed.closed, Registry.count_clear _, Registry.events_clear _⟩, fun after => ?_⟩
    obtain ⟨hs, ha, hc⟩ := hclosed.run after
    exact ⟨ha, hc, hs.closed⟩

/-- A listener that is added after `close` is counted, and dropped by a second `close`. -/
theorem listener_lost_by_second_close :
    ¬ ∀ before after : List (StreamMove Unit),
      let later := (((start .standard).run before).next .closed).run after
      later.next .closed = later := by
  intro h
  have hcount := congrArg (fun c => c.stream.registry.count "info")
    (h [] [.changed (.subscribed "info" ())])
  revert hcount
  decide

end StreamCourse
end LightningLottery
