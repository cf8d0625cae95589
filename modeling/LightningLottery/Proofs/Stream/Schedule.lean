/-
  When an event stream asks for its connections.

  * `failuresSinceOpen`: the failures that a loop has met in a row.
  * `Follows`, `OnSchedule`: the phases of a loop in their order, with the length of each delay and
    the time at which it is over.
  * `StreamCourse.next_onCourse`, `run_onCourse`: the loop keeps to the schedule, whatever happens.
-/
import Mathlib.Data.List.Chain
import LightningLottery.Proofs.Lists
import LightningLottery.Proofs.Stream.Backoff
import LightningLottery.Proofs.Stream.Course

namespace LightningLottery

/-! ## Schedules -/

/-- Whether a loop waits for the end of a delay, as it does after each failure. -/
def LoopPhase.isDelay : LoopPhase → Bool
  | .waiting _ => true
  | _ => false

/-- The failures since a connection last opened, or since the start: each led to a delay. -/
def failuresSinceOpen (log : List (Nat × LoopPhase)) : Nat :=
  (log.reverse.takeWhile fun entry => entry.2 ≠ .reading).countP fun entry => entry.2.isDelay

theorem failuresSinceOpen_reading (log : List (Nat × LoopPhase)) (time : Nat) :
    failuresSinceOpen (log ++ [(time, .reading)]) = 0 := by
  simp [failuresSinceOpen]

theorem failuresSinceOpen_waiting (log : List (Nat × LoopPhase)) (time : Nat) (delay : Duration) :
    failuresSinceOpen (log ++ [(time, .waiting delay)]) = failuresSinceOpen log + 1 := by
  simp [failuresSinceOpen, LoopPhase.isDelay]

theorem failuresSinceOpen_other (log : List (Nat × LoopPhase)) (time : Nat) (phase : LoopPhase)
    (h : phase ≠ .reading) (hd : phase.isDelay = false) :
    failuresSinceOpen (log ++ [(time, phase)]) = failuresSinceOpen log := by
  simp [failuresSinceOpen, h, hd]

/-- Which phase a loop enters after which, and when. -/
inductive Follows (floor : Duration) : Nat × LoopPhase → Nat × LoopPhase → Prop
  | opens {time later : Nat} (h : time ≤ later) : Follows floor (time, .connecting) (later, .reading)
  | refused {time later : Nat} {delay : Duration} (h : time ≤ later) :
    Follows floor (time, .connecting) (later, .waiting delay)
  /-- After a connection that was open the loop waits for exactly the floor. -/
  | drops {time later : Nat} (h : time ≤ later) :
    Follows floor (time, .reading) (later, .waiting floor)
  /-- The loop asks for a connection when its delay is over. -/
  | retries {time : Nat} {delay : Duration} :
    Follows floor (time, .waiting delay) (time + delay.ceilMilliseconds, .connecting)
  | stops {entry : Nat × LoopPhase} {later : Nat} (h : entry.2 ≠ .stopped) :
    Follows floor entry (later, .stopped)

/-- The phases that a loop has entered are those of a schedule. -/
structure OnSchedule (floor ceiling : Duration) (log : List (Nat × LoopPhase)) : Prop where
  /-- The loop begins with an attempt at once, unless it is told to end before. -/
  begins : ∀ entry, log.head? = some entry → entry = (0, .connecting) ∨ entry.2 = .stopped
  follows : log.IsChain (Follows floor)
  /-- Each delay is the floor, doubled for each failure in a row before it, up to the ceiling. -/
  delays : ∀ before time delay after, log = before ++ (time, .waiting delay) :: after →
    delay.nanoseconds = min (max ceiling.nanoseconds floor.nanoseconds)
      (floor.nanoseconds * 2 ^ failuresSinceOpen before)

namespace OnSchedule

variable {floor ceiling : Duration} {log : List (Nat × LoopPhase)}

theorem nil : OnSchedule floor ceiling [] :=
  ⟨nofun, .nil, fun _ _ _ _ h => by simp at h⟩

theorem concat (h : OnSchedule floor ceiling log) {entry : Nat × LoopPhase}
    (begins : log = [] → entry = (0, .connecting) ∨ entry.2 = .stopped)
    (follows : ∀ last, log.getLast? = some last → Follows floor last entry)
    (delays : ∀ delay, entry.2 = .waiting delay →
      delay = Backoff.delay floor ceiling (failuresSinceOpen log)) :
    OnSchedule floor ceiling (log ++ [entry]) := by
  refine ⟨fun first hfirst => ?_, ?_, fun before time delay after heq => ?_⟩
  · rcases log with _ | ⟨e, log⟩
    · cases hfirst; exact begins rfl
    · exact h.begins first hfirst
  · refine List.isChain_append.2 ⟨h.follows, .singleton _, fun last hlast e he => ?_⟩
    rw [List.head?_cons, Option.mem_some_iff] at he
    exact he ▸ follows last hlast
  -- Only the last phase is new; what is before it has not changed.
  · rcases concat_eq_append_cons_iff.1 heq with ⟨rfl, rfl, -⟩ | ⟨after', -, hlog⟩
    · rw [delays delay rfl, Backoff.nanoseconds_delay]
    · exact h.delays before time delay after' hlog

end OnSchedule

/-! ## Streams under way -/

namespace StreamCourse

variable {L : Type}

/-- Where a stream under way is. -/
inductive Place (c : StreamCourse L) : Prop
  /-- The loop has not run yet. -/
  | unbegun (log : c.log = []) (phase : c.stream.loop.phase = .connecting) (due : c.due = some 0)
  /-- The loop is in the phase that it entered last. -/
  | begun (time : Nat) (last : c.log.getLast? = some (time, c.stream.loop.phase))
      (past : time ≤ c.now) (due : c.due = c.stream.loop.phase.due time)
      (live : c.stream.loop.phase ≠ .stopped)
  /-- The loop has ended, as it was told. -/
  | ended (phase : c.stream.loop.phase = .stopped) (due : c.due = none)
      (told : c.stream.cancelled = true)

/-- A stream whose loop has kept to its schedule, and goes on with it. -/
structure OnCourse (floor ceiling : Duration) (c : StreamCourse L) : Prop where
  schedule : OnSchedule floor ceiling c.log
  backoff : c.stream.loop.backoff.After floor ceiling (failuresSinceOpen c.log)
  place : c.Place

variable {floor ceiling : Duration}

theorem start_onCourse (floor ceiling : Duration) :
    (start (.between floor ceiling) : StreamCourse L).OnCourse floor ceiling :=
  ⟨.nil, Backoff.between_after floor ceiling, .unbegun rfl rfl rfl⟩

theorem OnCourse.last_live {c : StreamCourse L} (h : c.OnCourse floor ceiling)
    (live : c.stream.loop.phase ≠ .stopped) {entry : Nat × LoopPhase}
    (hlast : c.log.getLast? = some entry) : entry.2 = c.stream.loop.phase := by
  cases h.place with
  | unbegun log phase due => rw [log] at hlast; cases hlast
  | begun time last past due live => rw [last] at hlast; cases hlast; rfl
  | ended phase due told => exact absurd phase live

theorem OnCourse.stop {c : StreamCourse L} (h : c.OnCourse floor ceiling)
    (told : c.stream.cancelled = true) (live : c.stream.loop.phase ≠ .stopped) (time : Nat) :
    (({ c with now := time, stream := c.stream.stop, due := none } :
      StreamCourse L).entered).OnCourse floor ceiling := by
  refine ⟨h.schedule.concat (fun _ => Or.inr rfl) (fun last hlast => ?_) nofun, ?_,
    .ended rfl rfl told⟩
  · exact .stops (h.last_live live hlast ▸ live)
  · exact (failuresSinceOpen_other c.log time .stopped nofun rfl).symm ▸ h.backoff

/-- A failure in the phase that the loop entered last leads to the delay that is due. -/
theorem OnCourse.fail {c c' : StreamCourse L} (h : c.OnCourse floor ceiling)
    (hlog : c'.log = c.log) (hloop : c'.stream.loop = c.stream.loop.fail.1)
    (hdue : c'.due = c'.stream.loop.phase.due c'.now)
    (hfollows : ∀ last, c.log.getLast? = some last →
      Follows floor last (c'.now, .waiting c.stream.loop.backoff.current))
    (hbegun : c.log ≠ []) : c'.entered.OnCourse floor ceiling := by
  obtain ⟨hdelay, hbackoff⟩ := h.backoff.onFailure
  have hphase : c'.stream.loop.phase = .waiting c.stream.loop.backoff.current :=
    congrArg ConnectionLoop.phase hloop
  have hentered : c'.entered.log =
      c.log ++ [(c'.now, .waiting c.stream.loop.backoff.current)] := by
    rw [entered, hlog, hphase]
  refine ⟨?_, ?_, .begun c'.now ?_ (Nat.le_refl _) hdue ?_⟩
  · rw [hentered]
    refine h.schedule.concat (fun hnil => absurd hnil hbegun) hfollows fun delay hd => ?_
    cases hd
    exact hdelay
  · rw [hentered, failuresSinceOpen_waiting]
    exact (congrArg ConnectionLoop.backoff hloop) ▸ hbackoff
  · exact List.getLast?_concat
  · exact hphase ▸ nofun

theorem Place.of_due (floor : Duration) {c : StreamCourse L} (h : c.Place) {time : Nat}
    (hdue : c.due = some time) : c.stream.loop.phase ≠ .stopped ∧ (c.log = [] → time = 0) ∧
      (∀ last, c.log.getLast? = some last → Follows floor last (time, .connecting)) ∧
      (c.stream.loop.step .delayOver).1 = ⟨.connecting, c.stream.loop.backoff⟩ := by
  obtain ⟨⟨registry, state, ⟨phase, backoff⟩, cancelled⟩, now, due, log, calls⟩ := c
  cases hdue
  cases h with
  | unbegun hlog hphase hdue =>
    cases hlog
    cases hphase
    cases hdue
    exact ⟨nofun, fun _ => rfl, nofun, rfl⟩
  | begun t last past hdue live =>
    cases phase with
    | waiting delay =>
      cases hdue
      refine ⟨nofun, fun hnil => ?_, fun entry hentry => ?_, rfl⟩
      · rw [hnil] at last; cases last
      · cases last.symm.trans hentry; exact .retries
    | connecting => cases hdue
    | reading => cases hdue
    | stopped => cases hdue
  | ended hphase hdue told => cases hdue

theorem loop_wake {c : StreamCourse L} (hc : c.stream.cancelled = false)
    (hstep : (c.stream.loop.step .delayOver).1 = ⟨.connecting, c.stream.loop.backoff⟩) (time : Nat) :
    (c.wake time).stream.loop = ⟨.connecting, c.stream.loop.backoff⟩ :=
  (takeIn_loop (c := { c with now := time }) hc _).trans hstep

theorem log_wake {c : StreamCourse L} (hc : c.stream.cancelled = false)
    (hstep : (c.stream.loop.step .delayOver).1 = ⟨.connecting, c.stream.loop.backoff⟩) (time : Nat) :
    (c.wake time).log = c.log ++ [(time, .connecting)] := by
  show c.log ++ [(time, (c.wake time).stream.loop.phase)] = _
  rw [loop_wake hc hstep]

theorem attempts_wake {c : StreamCourse L} (hc : c.stream.cancelled = false)
    (hstep : (c.stream.loop.step .delayOver).1 = ⟨.connecting, c.stream.loop.backoff⟩) (time : Nat) :
    (c.wake time).attempts = c.attempts ++ [time] := by
  rw [attempts, log_wake hc hstep, List.filterMap_append]
  rfl

/-- **The clock wakes the loop when its delay is over**, and the loop asks for a connection. -/
theorem OnCourse.wake {c : StreamCourse L} (h : c.OnCourse floor ceiling) {time : Nat}
    (hdue : c.due = some time) : (c.wake time).OnCourse floor ceiling := by
  obtain ⟨live, hzero, hfollows, hstep⟩ := h.place.of_due floor hdue
  rcases hc : c.stream.cancelled with _ | _
  · have hloop := loop_wake hc hstep time
    have hlog := log_wake hc hstep time
    refine ⟨?_, ?_, .begun time ?_ (Nat.le_refl _) rfl ?_⟩
    · rw [hlog]
      exact h.schedule.concat (fun hnil => Or.inl (by rw [hzero hnil])) hfollows nofun
    · rw [hlog, hloop, failuresSinceOpen_other _ _ .connecting nofun rfl]
      exact h.backoff
    · rw [hlog, hloop, List.getLast?_concat]
    · rw [hloop]; exact nofun
  · rw [StreamCourse.wake, takeIn_told (c := { c with now := time }) hc]
    exact h.stop hc live time

/-- Where the loop waits for its connection, it has waited since it entered its phase. -/
theorem Place.of_not_due {c : StreamCourse L} (h : c.Place) (hdue : c.due = none)
    (hc : c.stream.cancelled = false) :
    c.stream.loop.phase ≠ .stopped ∧ (∀ now, c.stream.loop.phase.due now = none) ∧
      ∃ time, time ≤ c.now ∧ c.log.getLast? = some (time, c.stream.loop.phase) := by
  cases h with
  | unbegun log phase due => rw [due] at hdue; cases hdue
  | begun time last past due live =>
    refine ⟨live, fun now => ?_, time, past, last⟩
    rw [hdue] at due
    cases hp : c.stream.loop.phase with
    | waiting delay => rw [hp] at due; cases due
    | connecting => rfl
    | reading => rfl
    | stopped => rfl
  | ended phase due told => rw [hc] at told; cases told

/-- After a connection that was open the loop waits for exactly the floor. -/
theorem OnCourse.current_of_reading {c : StreamCourse L} (h : c.OnCourse floor ceiling) {time : Nat}
    (hlast : c.log.getLast? = some (time, .reading)) : c.stream.loop.backoff.current = floor := by
  obtain ⟨before, hlog⟩ := List.getLast?_eq_some_iff.1 hlast
  rw [h.backoff.current_eq, hlog, failuresSinceOpen_reading, Backoff.delay_zero]

theorem OnCourse.open {c c' : StreamCourse L} (h : c.OnCourse floor ceiling) (hlog : c'.log = c.log)
    (hloop : c'.stream.loop = ⟨.reading, c.stream.loop.backoff.reset⟩)
    (hdue : c'.due = c'.stream.loop.phase.due c'.now) {time : Nat} (past : time ≤ c'.now)
    (hlast : c.log.getLast? = some (time, .connecting)) : c'.entered.OnCourse floor ceiling := by
  have hentered : c'.entered.log = c.log ++ [(c'.now, .reading)] := by
    rw [entered, hlog, hloop]
  refine ⟨?_, ?_, .begun c'.now ?_ (Nat.le_refl _) hdue ?_⟩
  · rw [hentered]
    refine h.schedule.concat (fun hnil => ?_) (fun last hl => ?_) nofun
    · rw [hnil] at hlast; cases hlast
    · cases hlast.symm.trans hl; exact .opens past
  · rw [hentered, failuresSinceOpen_reading]
    exact (congrArg ConnectionLoop.backoff hloop) ▸ h.backoff.reset
  · exact List.getLast?_concat
  · exact (congrArg ConnectionLoop.phase hloop) ▸ nofun

variable [DecidableEq L]

/-- What arrives from a connection is taken in as the schedule says. -/
theorem OnCourse.arrived {c : StreamCourse L} (h : c.OnCourse floor ceiling) (arrival : Arrival) :
    (c.next (.arrived arrival)).OnCourse floor ceiling := by
  simp only [next]
  split
  case isFalse => exact h
  case isTrue hdue =>
    rcases hc : c.stream.cancelled with _ | _
    case true =>
      simp only [takeIn_told hc]
      split
      · exact ⟨h.schedule, h.backoff, .ended rfl rfl hc⟩
      · next hlive => exact h.stop hc (Ne.symm hlive) c.now
    case false =>
      obtain ⟨live, hnone, time, past, last⟩ := h.place.of_not_due hdue hc
      have hbegun : c.log ≠ [] := fun hnil => by rw [hnil] at last; cases last
      have hloop := takeIn_loop hc arrival
      rcases c.stream.loop.step_cases arrival with hs | ⟨hp, -, hs⟩ | ⟨hp, -, hs⟩ | ⟨hp, -, hs⟩ |
        ⟨⟨delay, hp⟩, -, -⟩
      -- The arrival passes the loop by, or is a frame.
      · rw [hs] at hloop
        rw [hloop, if_pos rfl]
        refine ⟨h.schedule, ?_, .begun time ?_ past ?_ ?_⟩
        · rw [hloop]; exact h.backoff
        · rw [hloop]; exact last
        · show (c.takeIn arrival).stream.loop.phase.due c.now = _
          rw [hloop, hnone, hnone]
        · rw [hloop]; exact live
      -- The attempt fails.
      · rw [hs] at hloop
        rw [if_neg (by rw [hloop, hp]; rintro ⟨⟩)]
        refine h.fail rfl hloop rfl (fun entry hl => ?_) hbegun
        rw [hp] at last
        cases last.symm.trans hl
        exact .refused past
      -- The connection opens.
      · rw [hs] at hloop
        rw [if_neg (by rw [hloop, hp]; rintro ⟨⟩)]
        exact h.open rfl hloop rfl past (hp ▸ last)
      -- The connection is down, after no failure since it opened.
      · rw [hs] at hloop
        rw [if_neg (by rw [hloop, hp]; rintro ⟨⟩)]
        refine h.fail rfl hloop rfl (fun entry hl => ?_) hbegun
        rw [hp] at last
        cases last.symm.trans hl
        rw [h.current_of_reading last]
        exact .drops past
      -- A delay is over, but then the clock wakes the loop.
      · have hdelay := hnone c.now
        rw [hp] at hdelay
        cases hdelay

omit [DecidableEq L] in
theorem OnCourse.later {c : StreamCourse L} (h : c.OnCourse floor ceiling) {later : Nat}
    (hnow : c.now ≤ later) : ({ c with now := later } : StreamCourse L).OnCourse floor ceiling := by
  refine ⟨h.schedule, h.backoff, ?_⟩
  cases h.place with
  | unbegun log phase due => exact .unbegun log phase due
  | begun time last past due live => exact .begun time last (past.trans hnow) due live
  | ended phase due told => exact .ended phase due told

omit [DecidableEq L] in
theorem OnCourse.alter {c : StreamCourse L} (h : c.OnCourse floor ceiling)
    {change : EventStream L → EventStream L} (hloop : (change c.stream).loop = c.stream.loop)
    (htold : c.stream.cancelled = true → (change c.stream).cancelled = true) :
    (c.alter change).OnCourse floor ceiling := by
  have hloop' : (c.alter change).stream.loop = c.stream.loop := hloop
  refine ⟨h.schedule, hloop' ▸ h.backoff, ?_⟩
  cases h.place with
  | unbegun log phase due => exact .unbegun log (hloop' ▸ phase) due
  | begun time last past due live =>
    exact .begun time (hloop' ▸ last) past (hloop' ▸ due) (hloop' ▸ live)
  | ended phase due told => exact .ended (hloop' ▸ phase) due (htold told)

theorem OnCourse.change {c : StreamCourse L} (h : c.OnCourse floor ceiling)
    (change : RegistryMove L) : (c.alter fun s => s.change change).OnCourse floor ceiling := by
  refine h.alter ?_ fun told => ?_
  · rw [EventStream.change_eq]
  · rw [EventStream.change_eq]
    exact told

/-- **Every move keeps a stream to its schedule.** -/
theorem next_onCourse {c : StreamCourse L} (h : c.OnCourse floor ceiling) (move : StreamMove L) :
    (c.next move).OnCourse floor ceiling := by
  cases move with
  | arrived arrival => exact h.arrived arrival
  | passed milliseconds =>
    simp only [next]
    split
    · next time hdue =>
      split
      · next hle => exact (h.wake hdue).later hle
      · exact h.later (Nat.le_add_right _ _)
    · exact h.later (Nat.le_add_right _ _)
  | changed change => exact h.change change
  | closed => exact h.alter rfl fun _ => rfl
  | aborted =>
    simp only [next]
    split
    · next htold => exact ⟨h.schedule, h.backoff, .ended rfl rfl htold⟩
    · exact h

theorem run_onCourse {c : StreamCourse L} (h : c.OnCourse floor ceiling)
    (moves : List (StreamMove L)) : (c.run moves).OnCourse floor ceiling := by
  induction moves generalizing c with
  | nil => exact h
  | cons move moves ih => exact ih (next_onCourse h move)

end StreamCourse
end LightningLottery
