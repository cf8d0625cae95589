/-
  Event streams that lose their connections, one after the other.

  * `StreamCourse.GoesOn`: the loop waits for something, and goes on when that comes.
  * `ConnectionOutcome`, `StreamCourse.playAll`: scripts of what becomes of the attempts to connect.
  * `reconnections`: the phases that a loop enters over such a script, with their times.
  * `reconnects_on_schedule`: a loop that is not told to end never gives up, and each of its delays
    has its length and ends with an attempt.
-/
import LightningLottery.Proofs.Stream.Timeline

namespace LightningLottery

/-- What becomes of an attempt to connect. -/
inductive ConnectionOutcome where
  /-- It is refused after so many milliseconds. -/
  | refused (after : Nat) (fault : StreamFault)
  /-- It succeeds after so many milliseconds, the connection gives frames, each so many milliseconds
      after what comes before it, and is down so many milliseconds after the last of them. -/
  | dropped (after : Nat) (frames : List (Nat × Frame)) (later : Nat) (fault : StreamFault)

/-- Frames come, each so many milliseconds after what comes before it. -/
def StreamMove.frames {L : Type} (frames : List (Nat × Frame)) : List (StreamMove L) :=
  frames.flatMap fun (wait, frame) => [.passed wait, .arrived (.frame frame)]

/-- What happens to the stream meanwhile. -/
def ConnectionOutcome.moves {L : Type} : ConnectionOutcome → List (StreamMove L)
  | .refused after fault => [.passed after, .arrived (.refused fault)]
  | .dropped after frames later fault =>
    [.passed after, .arrived .opened] ++ StreamMove.frames frames ++
      [.passed later, .arrived (.dropped fault)]

/-- The phases that a loop enters that asks for a connection at this time, after so many failures
    in a row, and then meets with these outcomes. -/
def reconnections (floor ceiling : Duration) (time failures : Nat) :
    List ConnectionOutcome → List (Nat × LoopPhase)
  | [] => [(time, .connecting)]
  | .refused after _ :: outcomes =>
    let delay := Backoff.delay floor ceiling failures
    (time, .connecting) :: (time + after, .waiting delay) ::
      reconnections floor ceiling (time + after + delay.ceilMilliseconds) (failures + 1) outcomes
  | .dropped after frames later _ :: outcomes =>
    let lost := time + after + (frames.map (·.1)).sum + later
    (time, .connecting) :: (time + after, .reading) :: (lost, .waiting floor) ::
      reconnections floor ceiling (lost + floor.ceilMilliseconds) 1 outcomes

namespace StreamCourse

variable {L : Type} [DecidableEq L] {floor ceiling : Duration} {c : StreamCourse L}

/-! ## Loops that go on -/

/-- The loop waits for something, and when that comes it enters its next phase. -/
inductive GoesOn (floor ceiling : Duration) (c : StreamCourse L) : Prop
  /-- It asks for a connection when its delay is over, as soon as the clock comes there. -/
  | wakes (time : Nat) (due : c.due = some time)
      (asks : ∀ milliseconds, time ≤ c.now + milliseconds →
        (c.next (.passed milliseconds)).log = c.log ++ [(time, .connecting)])
  /-- It has asked for a connection. -/
  | asks (phase : c.stream.loop.phase = .connecting)
      (refused : ∀ fault, (c.next (.arrived (.refused fault))).log =
        c.log ++ [(c.now, .waiting (Backoff.delay floor ceiling (failuresSinceOpen c.log)))])
      (opened : (c.next (.arrived .opened)).log = c.log ++ [(c.now, .reading)])
  /-- It reads from its connection. -/
  | reads (phase : c.stream.loop.phase = .reading)
      (dropped : ∀ fault, (c.next (.arrived (.dropped fault))).log =
        c.log ++ [(c.now, .waiting floor)])

theorem log_next_arrived (hdue : c.due = none) (hc : c.stream.cancelled = false)
    {arrival : Arrival} {loop : ConnectionLoop} (hstep : (c.stream.loop.step arrival).1 = loop)
    (hphase : loop.phase ≠ c.stream.loop.phase) :
    (c.next (.arrived arrival)).log = c.log ++ [(c.now, loop.phase)] := by
  have hloop := (takeIn_loop hc arrival).trans hstep
  simp only [next, if_pos hdue]
  rw [if_neg (by rw [hloop]; exact hphase)]
  show c.log ++ [(c.now, (c.takeIn arrival).stream.loop.phase)] = _
  rw [hloop]

theorem log_next_passed {time milliseconds : Nat} (hdue : c.due = some time)
    (h : time ≤ c.now + milliseconds) :
    (c.next (.passed milliseconds)).log = (c.wake time).log := by
  rw [next_passed_due hdue h]

/-- **A loop that is not told to end has a next step**, in every phase. -/
theorem OnCourse.goesOn (h : c.OnCourse floor ceiling) (hc : c.stream.cancelled = false) :
    c.GoesOn floor ceiling := by
  rcases hdue : c.due with _ | time
  · obtain ⟨live, hnone, since, -, last⟩ := h.place.of_not_due hdue hc
    obtain ⟨hdelay, -⟩ := h.backoff.onFailure
    rcases hphase : c.stream.loop.phase with _ | _ | delay | _
    · refine .asks hphase (fun fault => ?_) ?_
      · rw [log_next_arrived hdue hc rfl] <;> simp only [ConnectionLoop.step, hphase]
        · rw [← hdelay]; rfl
        · rintro ⟨⟩
      · rw [log_next_arrived hdue hc rfl] <;> simp [ConnectionLoop.step, hphase]
    · refine .reads hphase fun fault => ?_
      rw [hphase] at last
      rw [log_next_arrived hdue hc rfl] <;> simp only [ConnectionLoop.step, hphase]
      · rw [← h.current_of_reading last]; rfl
      · rintro ⟨⟩
    · rw [hphase] at hnone
      cases hnone 0
    · exact absurd hphase live
  · obtain ⟨-, -, -, hstep⟩ := h.place.of_due floor hdue
    refine .wakes time hdue fun milliseconds hle => ?_
    rw [log_next_passed hdue hle, log_wake hc hstep]

/-! ## Scripts of outcomes -/

/-- The clock runs until the loop is woken. -/
def sleepOff (c : StreamCourse L) : StreamCourse L :=
  c.next (.passed (c.due.getD c.now - c.now))

/-- An attempt to connect meets with its outcome, and the delay after it passes. -/
def play (c : StreamCourse L) (outcome : ConnectionOutcome) : StreamCourse L :=
  (c.run outcome.moves).sleepOff

/-- Many attempts to connect meet with their outcomes, one after the other. -/
def playAll (c : StreamCourse L) (outcomes : List ConnectionOutcome) : StreamCourse L :=
  outcomes.foldl play c

theorem now_next_passed (c : StreamCourse L) (milliseconds : Nat) :
    (c.next (.passed milliseconds)).now = c.now + milliseconds := by
  simp only [next]
  split
  · split <;> rfl
  · rfl

theorem cancelled_next_passed (c : StreamCourse L) (milliseconds : Nat) :
    (c.next (.passed milliseconds)).stream.cancelled = c.stream.cancelled := by
  simp only [next]
  split
  · split
    · exact EventStream.arrive_cancelled c.stream .delayOver
    · rfl
  · rfl

theorem now_next_arrived (c : StreamCourse L) (arrival : Arrival) :
    (c.next (.arrived arrival)).now = c.now := by
  simp only [next]
  split
  · split <;> rfl
  · rfl

theorem cancelled_next_arrived (c : StreamCourse L) (arrival : Arrival) :
    (c.next (.arrived arrival)).stream.cancelled = c.stream.cancelled := by
  simp only [next]
  split
  · split <;> exact EventStream.arrive_cancelled c.stream arrival
  · rfl

/-- A loop that is not told to end has come so far at this time. -/
structure Reached (floor ceiling : Duration) (now : Nat) (log : List (Nat × LoopPhase))
    (c : StreamCourse L) : Prop where
  onCourse : c.OnCourse floor ceiling
  live : c.stream.cancelled = false
  now_eq : c.now = now
  log_eq : c.log = log

namespace Reached

variable {now since : Nat} {log : List (Nat × LoopPhase)} {phase : LoopPhase}

omit [DecidableEq L] in
theorem phase_due (h : c.Reached floor ceiling now (log ++ [(since, phase)])) :
    c.stream.loop.phase = phase ∧ c.due = phase.due since := by
  have hlast : c.log.getLast? = some (since, phase) := by rw [h.log_eq, List.getLast?_concat]
  cases h.onCourse.place with
  | unbegun nolog _ _ => rw [nolog] at hlast; cases hlast
  | begun time last past due live => cases last.symm.trans hlast; exact ⟨rfl, due⟩
  | ended _ _ told => rw [h.live] at told; cases told

theorem passed (h : c.Reached floor ceiling now log) (milliseconds : Nat)
    {log' : List (Nat × LoopPhase)} (hlog : (c.next (.passed milliseconds)).log = log') :
    (c.next (.passed milliseconds)).Reached floor ceiling (now + milliseconds) log' :=
  ⟨next_onCourse h.onCourse _, (cancelled_next_passed c _).trans h.live,
    (now_next_passed c _).trans (congrArg (· + milliseconds) h.now_eq), hlog⟩

theorem arrived (h : c.Reached floor ceiling now log) (arrival : Arrival)
    {log' : List (Nat × LoopPhase)} (hlog : (c.next (.arrived arrival)).log = log') :
    (c.next (.arrived arrival)).Reached floor ceiling now log' :=
  ⟨next_onCourse h.onCourse _, (cancelled_next_arrived c _).trans h.live,
    (now_next_arrived c _).trans h.now_eq, hlog⟩

theorem waits (h : c.Reached floor ceiling now (log ++ [(since, phase)]))
    (hphase : phase.due since = none) (milliseconds : Nat) :
    (c.next (.passed milliseconds)).Reached floor ceiling (now + milliseconds)
      (log ++ [(since, phase)]) := by
  refine h.passed milliseconds ?_
  simp only [next, h.phase_due.2.trans hphase]
  exact h.log_eq

theorem reads (h : c.Reached floor ceiling now (log ++ [(since, .reading)])) (frame : Frame) :
    (c.next (.arrived (.frame frame))).Reached floor ceiling now (log ++ [(since, .reading)]) := by
  obtain ⟨hphase, hdue⟩ : c.stream.loop.phase = .reading ∧ c.due = none := h.phase_due
  have hloop : (c.takeIn (.frame frame)).stream.loop = c.stream.loop :=
    (takeIn_loop h.live _).trans (by simp only [ConnectionLoop.step, hphase])
  refine h.arrived _ ?_
  simp only [next, if_pos hdue]
  rw [if_pos (congrArg ConnectionLoop.phase hloop)]
  exact h.log_eq

theorem readsAll (h : c.Reached floor ceiling now (log ++ [(since, .reading)]))
    (frames : List (Nat × Frame)) :
    (c.run (StreamMove.frames frames)).Reached floor ceiling (now + (frames.map (·.1)).sum)
      (log ++ [(since, .reading)]) := by
  induction frames generalizing c now with
  | nil => exact h
  | cons item frames ih =>
    have := ih ((h.waits rfl item.1).reads item.2)
    rwa [Nat.add_assoc] at this

theorem refused (h : c.Reached floor ceiling now (log ++ [(since, .connecting)]))
    (fault : StreamFault) :
    (c.next (.arrived (.refused fault))).Reached floor ceiling now (log ++ [(since, .connecting)] ++
      [(now, .waiting (Backoff.delay floor ceiling
        (failuresSinceOpen (log ++ [(since, .connecting)]))))]) := by
  obtain ⟨hphase, hdue⟩ := h.phase_due
  cases h.onCourse.goesOn h.live with
  | wakes time due _ => rw [hdue] at due; cases due
  | asks _ refused _ => exact h.arrived _ (h.log_eq ▸ h.now_eq ▸ refused fault)
  | reads phase _ => rw [hphase] at phase; cases phase

theorem opened (h : c.Reached floor ceiling now (log ++ [(since, .connecting)])) :
    (c.next (.arrived .opened)).Reached floor ceiling now
      (log ++ [(since, .connecting)] ++ [(now, .reading)]) := by
  obtain ⟨hphase, hdue⟩ := h.phase_due
  cases h.onCourse.goesOn h.live with
  | wakes time due _ => rw [hdue] at due; cases due
  | asks _ _ opened => exact h.arrived _ (h.log_eq ▸ h.now_eq ▸ opened)
  | reads phase _ => rw [hphase] at phase; cases phase

theorem dropped (h : c.Reached floor ceiling now (log ++ [(since, .reading)]))
    (fault : StreamFault) :
    (c.next (.arrived (.dropped fault))).Reached floor ceiling now
      (log ++ [(since, .reading)] ++ [(now, .waiting floor)]) := by
  obtain ⟨hphase, hdue⟩ := h.phase_due
  cases h.onCourse.goesOn h.live with
  | wakes time due _ => rw [hdue] at due; cases due
  | asks phase _ _ => rw [hphase] at phase; cases phase
  | reads _ dropped => exact h.arrived _ (h.log_eq ▸ h.now_eq ▸ dropped fault)

/-- **The attempt after a delay is made when the delay is over.** -/
theorem sleepsOff {delay : Duration}
    (h : c.Reached floor ceiling now (log ++ [(now, .waiting delay)])) :
    c.sleepOff.Reached floor ceiling (now + delay.ceilMilliseconds)
      (log ++ [(now, .waiting delay)] ++ [(now + delay.ceilMilliseconds, .connecting)]) := by
  obtain ⟨hphase, hdue⟩ := h.phase_due
  rw [LoopPhase.due] at hdue
  generalize delay.ceilMilliseconds = wait at hdue ⊢
  have hsleep : c.sleepOff = c.next (.passed wait) := by
    rw [sleepOff, hdue, h.now_eq, Option.getD_some, Nat.add_sub_cancel_left]
  rw [hsleep]
  cases h.onCourse.goesOn h.live with
  | wakes time due asks =>
    obtain rfl : now + wait = time := Option.some.inj (hdue.symm.trans due)
    have hlog := asks wait (by rw [h.now_eq])
    rw [h.log_eq] at hlog
    exact h.passed wait hlog
  | asks phase _ _ => rw [hphase] at phase; cases phase
  | reads phase _ => rw [hphase] at phase; cases phase

end Reached

theorem start_reached (floor ceiling : Duration) :
    ((start (.between floor ceiling)).sleepOff : StreamCourse L).Reached floor ceiling 0
      ([] ++ [(0, .connecting)]) := by
  have h : (start (.between floor ceiling) : StreamCourse L).Reached floor ceiling 0 [] :=
    ⟨start_onCourse floor ceiling, rfl, rfl, rfl⟩
  exact h.passed 0 ((log_next_passed rfl (Nat.le_refl 0)).trans (log_wake rfl rfl 0))

/-- **A script of outcomes enters the phases of `reconnections`.** -/
theorem Reached.log_playAll {now : Nat} {log : List (Nat × LoopPhase)}
    (h : c.Reached floor ceiling now (log ++ [(now, .connecting)]))
    (outcomes : List ConnectionOutcome) :
    (c.playAll outcomes).log =
      log ++ reconnections floor ceiling now (failuresSinceOpen log) outcomes := by
  induction outcomes generalizing c now log with
  | nil => exact h.log_eq
  | cons outcome outcomes ih =>
    have hasks : failuresSinceOpen (log ++ [(now, .connecting)]) = failuresSinceOpen log :=
      failuresSinceOpen_other _ _ _ nofun rfl
    cases outcome with
    | refused after fault =>
      have hplay := ((h.waits rfl after).refused fault).sleepsOff
      rw [hasks] at hplay
      have hlater := ih hplay
      rw [failuresSinceOpen_waiting, hasks] at hlater
      refine hlater.trans ?_
      simp only [reconnections, List.append_assoc, List.cons_append, List.nil_append]
    | dropped after frames later fault =>
      -- The failures are forgotten when the connection opens, so the drop is the first one.
      have hread := ((h.waits rfl after).opened).readsAll frames
      have hplay := ((hread.waits rfl later).dropped fault).sleepsOff
      have hlater := ih hplay
      rw [failuresSinceOpen_waiting, failuresSinceOpen_reading] at hlater
      have hmoves : c.run (ConnectionOutcome.dropped after frames later fault).moves =
          ((((c.next (.passed after)).next (.arrived .opened)).run (StreamMove.frames frames)).next
            (.passed later)).next (.arrived (.dropped fault)) := by
        rw [ConnectionOutcome.moves, run_append, run_append]
        rfl
      rw [playAll, List.foldl_cons, play, hmoves]
      refine hlater.trans ?_
      simp only [reconnections, List.append_assoc, List.cons_append, List.nil_append]

theorem length_attempts_reconnections (floor ceiling : Duration) (time failures : Nat)
    (outcomes : List ConnectionOutcome) :
    ((reconnections floor ceiling time failures outcomes).filterMap fun (time, phase) =>
      if phase = .connecting then some time else none).length = outcomes.length + 1 := by
  induction outcomes generalizing time failures with
  | nil => rfl
  | cons outcome outcomes ih =>
    cases outcome with
    | refused after fault => exact congrArg (· + 1) (ih _ _)
    | dropped after frames later fault => exact congrArg (· + 1) (ih _ _)

theorem cancelled_run {c : StreamCourse L} (hc : c.stream.cancelled = false)
    {moves : List (StreamMove L)} (h : StreamMove.closed ∉ moves) :
    (c.run moves).stream.cancelled = false := by
  induction moves generalizing c with
  | nil => exact hc
  | cons move moves ih =>
    obtain ⟨hmove, hmoves⟩ := not_or.1 (mt List.mem_cons.2 h)
    refine ih ?_ hmoves
    cases move with
    | arrived arrival => exact (cancelled_next_arrived c arrival).trans hc
    | passed milliseconds => exact (cancelled_next_passed c milliseconds).trans hc
    | changed change =>
      show (c.stream.change change).cancelled = false
      rw [EventStream.change_eq]
      exact hc
    | closed => exact absurd rfl hmove
    | aborted =>
      simp only [next, hc]
      exact hc

/-- **A loop that is not closed always reconnects, on schedule**: the delay after a failure is
    `floor * 2 ^ n` up to the ceiling, `n` being the failures in a row before it, and when it is
    over a connection is asked for. It holds after all moves, for all finite and infinite scripts of
    outcomes, and for timelines. -/
theorem reconnects_on_schedule (L : Type) [DecidableEq L] (floor ceiling : Duration) :
    let course : StreamCourse L := start (.between floor ceiling)
    (∀ moves, OnSchedule floor ceiling (course.run moves).log ∧
      (.closed ∉ moves → (course.run moves).GoesOn floor ceiling)) ∧
    (∀ outcomes, (course.sleepOff.playAll outcomes).log =
      reconnections floor ceiling 0 0 outcomes) ∧
    (∀ (outcomes : ℕ → ConnectionOutcome) (n : ℕ),
      (course.sleepOff.playAll ((List.range n).map outcomes)).attempts.length = n + 1) ∧
    (∀ failures, (Backoff.delay floor ceiling failures).nanoseconds =
        min (max ceiling.nanoseconds floor.nanoseconds) (floor.nanoseconds * 2 ^ failures) ∧
      (Duration.perMillisecond ∣ floor.nanoseconds → Duration.perMillisecond ∣ ceiling.nanoseconds →
        (Backoff.delay floor ceiling failures).ceilMilliseconds * Duration.perMillisecond =
          (Backoff.delay floor ceiling failures).nanoseconds)) ∧
    ∀ (script : List Attempt) (moves : List (TimelineMove L)), ∃ courseMoves,
      ((Timeline.start (.between floor ceiling) script).run moves).1.Shows floor ceiling
        (course.run courseMoves) := by
  intro course
  have onCourse (moves : List (StreamMove L)) : (course.run moves).OnCourse floor ceiling :=
    run_onCourse (start_onCourse floor ceiling) moves
  have played (outcomes : List ConnectionOutcome) :
      (course.sleepOff.playAll outcomes).log = reconnections floor ceiling 0 0 outcomes :=
    (start_reached floor ceiling).log_playAll outcomes
  refine ⟨fun moves => ⟨(onCourse moves).schedule, fun h => ?_⟩, played, fun outcomes n => ?_,
    fun failures => ⟨Backoff.nanoseconds_delay floor ceiling failures, fun hf hc => ?_⟩,
    fun script moves => ?_⟩
  · exact (onCourse moves).goesOn (cancelled_run rfl h)
  · rw [attempts, played, length_attempts_reconnections, List.length_map, List.length_range]
  · exact Duration.ceilMilliseconds_mul (Backoff.dvd_delay hf hc failures)
  · obtain ⟨courseMoves, hshows, -⟩ := Timeline.exists_course floor ceiling script moves
    exact ⟨courseMoves, hshows⟩

end StreamCourse
end LightningLottery
