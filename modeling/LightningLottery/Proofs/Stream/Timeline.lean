/-
  Timelines are courses of their streams.

  * `TimelineMove`, `Timeline.run`: what can be done on a timeline, and what it leads to.
  * `Timeline.Shows`: a course has come as far as a timeline.
  * `Timeline.LeadsTo`: what becomes of a timeline, a course can go along with.
  * `Timeline.run_leadsTo`: so it is with all that can be done on a timeline.
-/
import LightningLottery.Proofs.Stream.Publication
import LightningLottery.Proofs.Stream.Schedule
import LightningLottery.Stream.Timeline

namespace LightningLottery

/-- What can be done on a timeline. -/
inductive TimelineMove (L : Type) where
  /-- All that is due now is done. -/
  | settled
  /-- The clock runs. -/
  | advanced (milliseconds : Nat)
  /-- A frame is sent over the live connection. -/
  | pushed (frame : Frame)
  /-- The live connection is down. -/
  | brokenOff (fault : StreamFault)
  | closed
  /-- The owner changes who listens. -/
  | changed (change : RegistryMove L)

theorem LoopPhase.due_ahead {phase : LoopPhase} {now time : Nat} (h : phase.due now = some time) :
    now ≤ time := by
  cases phase with
  | waiting delay => cases h; exact Nat.le_add_right _ _
  | _ => cases h

namespace Timeline

variable {L : Type} [DecidableEq L]

/-- What is done on a timeline, and the calls that it leads to. -/
def next (t : Timeline L) : TimelineMove L → Timeline L × List (Call L)
  | .settled => t.settle
  | .advanced milliseconds => t.advance milliseconds
  | .pushed frame => t.push frame
  | .brokenOff fault => t.breakOff fault
  | .closed => (t.close, [])
  | .changed change => ({ t with stream := t.stream.change change }, [])

def run (t : Timeline L) : List (TimelineMove L) → Timeline L × List (Call L)
  | [] => (t, [])
  | move :: moves =>
    let (first, calls) := t.next move
    let (last, more) := first.run moves
    (last, calls ++ more)

/-- A course has come as far as a timeline. The loop of a closed timeline is not there any more,
    which nobody can see. -/
structure Shows (floor ceiling : Duration) (t : Timeline L) (c : StreamCourse L) : Prop where
  onCourse : c.OnCourse floor ceiling
  stream : c.stream = if t.stream.cancelled then t.stream.stop else t.stream
  now : c.now = t.now
  due : c.due = t.due
  attempts : c.attempts = t.attempts
  ahead : ∀ time, t.due = some time → t.now ≤ time
  silent : t.stream.cancelled = true → t.due = none

/-- What becomes of a timeline, a course can go along with. -/
def LeadsTo (floor ceiling : Duration) (t : Timeline L) (r : Timeline L × List (Call L)) : Prop :=
  ∀ c : StreamCourse L, t.Shows floor ceiling c →
    ∃ moves, r.1.Shows floor ceiling (c.run moves) ∧ (c.run moves).calls = c.calls ++ r.2

variable {floor ceiling : Duration} {t : Timeline L}

theorem LeadsTo.refl (t : Timeline L) : LeadsTo floor ceiling t (t, []) :=
  fun _ h => ⟨[], h, (List.append_nil _).symm⟩

theorem LeadsTo.trans {t' : Timeline L} {calls : List (Call L)} {r : Timeline L × List (Call L)}
    (h : LeadsTo floor ceiling t (t', calls)) (h' : LeadsTo floor ceiling t' r) :
    LeadsTo floor ceiling t (r.1, calls ++ r.2) := by
  intro c hc
  obtain ⟨moves, hshows, hcalls⟩ := h c hc
  obtain ⟨more, hshows', hcalls'⟩ := h' _ hshows
  refine ⟨moves ++ more, ?_, ?_⟩
  · rw [StreamCourse.run_append]
    exact hshows'
  · rw [StreamCourse.run_append, hcalls', hcalls, List.append_assoc]

theorem LeadsTo.of_next {r : Timeline L × List (Call L)} (move : StreamMove L)
    (h : ∀ c : StreamCourse L, t.Shows floor ceiling c →
      (c.next move).OnCourse floor ceiling →
      r.1.Shows floor ceiling (c.next move) ∧ (c.next move).calls = c.calls ++ r.2) :
    LeadsTo floor ceiling t r :=
  fun c hc => ⟨[move], h c hc (StreamCourse.next_onCourse hc.onCourse move)⟩

omit [DecidableEq L] in
theorem Shows.stream_open {c : StreamCourse L} (h : t.Shows floor ceiling c)
    (hc : t.stream.cancelled = false) : c.stream = t.stream := by
  rw [h.stream, hc]
  rfl

omit [DecidableEq L] in
theorem Shows.live {c : StreamCourse L} (h : t.Shows floor ceiling c) {time : Nat}
    (hdue : t.due = some time) : t.stream.cancelled = false := by
  rcases hc : t.stream.cancelled with _ | _
  · rfl
  · rw [h.silent hc] at hdue; cases hdue

/-! ## Arrivals -/

omit [DecidableEq L] in
theorem arrive_fst (t : Timeline L) (arrival : Arrival) :
    (t.arrive arrival).1 = { t with
      stream := (t.stream.arrive arrival).1
      due := (t.stream.arrive arrival).1.loop.phase.due t.now } := by
  unfold arrive
  cases h : (t.stream.arrive arrival).1.loop.phase <;> simp only [LoopPhase.due, h]

theorem leadsTo_arrive (hdue : t.due = none) (hc : t.stream.cancelled = false) (arrival : Arrival)
    (h : arrival ≠ .delayOver) : LeadsTo floor ceiling t (t.arrive arrival) := by
  refine .of_next (.arrived arrival) fun c hshows hnext => ?_
  have hstream := hshows.stream_open hc
  have hcancelled : (t.stream.arrive arrival).1.cancelled = false :=
    (EventStream.arrive_cancelled _ _).trans hc
  have hphase : (c.takeIn arrival).stream.loop.phase = .connecting →
      c.stream.loop.phase = .connecting := by
    rw [StreamCourse.takeIn_loop (hstream ▸ hc)]
    intro hp
    rcases c.stream.loop.step_cases arrival with hs | ⟨-, -, hs⟩ | ⟨-, -, hs⟩ | ⟨-, -, hs⟩ |
      ⟨-, he, -⟩
    · rwa [hs] at hp
    · rw [hs] at hp; cases hp
    · rw [hs] at hp; cases hp
    · rw [hs] at hp; cases hp
    · exact absurd he h
  obtain ⟨log, he, hattempts⟩ := StreamCourse.next_arrived (hshows.due.trans hdue) hphase
  rw [arrive_fst]
  refine ⟨⟨hnext, ?_, ?_, ?_, hattempts.trans hshows.attempts, fun time => LoopPhase.due_ahead,
    fun hn => ?_⟩, ?_⟩
  · rw [he, hcancelled, if_neg Bool.false_ne_true, ← hstream]
    rfl
  · rw [he]
    exact hshows.now
  · rw [he, ← hstream, ← hshows.now]
    rfl
  · rw [hcancelled] at hn; cases hn
  · have hcalls : (t.arrive arrival).2 = (t.stream.arrive arrival).2 := rfl
    rw [he, hcalls, ← hstream]
    rfl

omit [DecidableEq L] in
def woken (t : Timeline L) (time : Nat) : Timeline L :=
  { t with now := time, due := none, attempts := t.attempts ++ [time] }

theorem leadsTo_wake {time : Nat} (hdue : t.due = some time) :
    LeadsTo floor ceiling t
      ((t.woken time).arrive .delayOver) := by
  refine .of_next (.passed (time - t.now)) fun c hshows hnext => ?_
  have hc := hshows.live hdue
  have hstream := hshows.stream_open hc
  have hcdue : c.due = some time := hshows.due.trans hdue
  obtain ⟨-, -, -, hstep⟩ := hshows.onCourse.place.of_due floor hcdue
  have hcancelled : (t.stream.arrive .delayOver).1.cancelled = false :=
    (EventStream.arrive_cancelled _ _).trans hc
  have hnow : c.now + (time - t.now) = time := by
    rw [hshows.now]
    exact Nat.add_sub_cancel' (hshows.ahead time hdue)
  have he : c.next (.passed (time - t.now)) = { c.wake time with now := time } := by
    rw [StreamCourse.next_passed_due hcdue hnow.ge, hnow]
  rw [arrive_fst]
  dsimp only [woken]
  refine ⟨⟨hnext, ?_, ?_, ?_, ?_, fun later => LoopPhase.due_ahead, fun hn => ?_⟩, ?_⟩
  · rw [he, hcancelled, if_neg Bool.false_ne_true, ← hstream]
    rfl
  · rw [he]
  · rw [he, ← hstream]
    rfl
  · rw [he, ← hshows.attempts]
    exact StreamCourse.attempts_wake (hstream ▸ hc) hstep time
  · rw [hcancelled] at hn; cases hn
  · show _ = c.calls ++ (t.stream.arrive .delayOver).2
    rw [he, ← hstream]
    rfl

/-! ## Attempts -/

/-- The loop is in a phase in which it waits for its connection. -/
structure Awaits (phase : LoopPhase) (t : Timeline L) : Prop where
  phase_eq : t.stream.loop.phase = phase
  due : t.due = none
  live : t.stream.cancelled = false

omit [DecidableEq L] in
theorem arrive_awaits {phase : LoopPhase} (hc : t.stream.cancelled = false) {arrival : Arrival}
    (hstep : (t.stream.loop.step arrival).1.phase = phase) (hdue : ∀ now, phase.due now = none) :
    (t.arrive arrival).1.Awaits phase := by
  have hphase : (t.stream.arrive arrival).1.loop.phase = phase := by
    rw [EventStream.arrive_open hc]
    exact hstep
  rw [arrive_fst]
  exact ⟨hphase, hphase ▸ hdue t.now, (EventStream.arrive_cancelled _ _).trans hc⟩

theorem leadsTo_arriveAll_cons {arrival : Arrival} {arrivals : List Arrival}
    (h : LeadsTo floor ceiling t (t.arrive arrival))
    (h' : LeadsTo floor ceiling (t.arrive arrival).1 ((t.arrive arrival).1.arriveAll arrivals)) :
    LeadsTo floor ceiling t (t.arriveAll (arrival :: arrivals)) := LeadsTo.trans h h'

theorem leadsTo_arriveAll_frames (h : t.Awaits .reading) (frames : List Frame)
    (fault : StreamFault) :
    LeadsTo floor ceiling t (t.arriveAll (frames.map .frame ++ [.dropped fault])) := by
  induction frames generalizing t with
  | nil =>
    refine leadsTo_arriveAll_cons (leadsTo_arrive h.due h.live _ ?_) (.refl _)
    rintro ⟨⟩
  | cons frame frames ih =>
    have hread : (t.arrive (.frame frame)).1.Awaits .reading :=
      arrive_awaits h.live (by simp only [ConnectionLoop.step, h.phase_eq]) fun _ => rfl
    refine leadsTo_arriveAll_cons (leadsTo_arrive h.due h.live _ ?_) (ih hread)
    rintro ⟨⟩

theorem leadsTo_arriveAll_arrivals (h : t.Awaits .connecting) (attempt : Attempt) :
    LeadsTo floor ceiling t (t.arriveAll attempt.arrivals) := by
  cases attempt with
  | unanswered => exact .refl t
  | refused fault => exact leadsTo_arriveAll_cons (leadsTo_arrive h.due h.live _ nofun) (.refl _)
  | live => exact leadsTo_arriveAll_cons (leadsTo_arrive h.due h.live _ nofun) (.refl _)
  | served frames fault =>
    have hread : (t.arrive .opened).1.Awaits .reading :=
      arrive_awaits h.live (by simp only [ConnectionLoop.step, h.phase_eq]) fun _ => rfl
    exact leadsTo_arriveAll_cons (leadsTo_arrive h.due h.live _ nofun)
      (leadsTo_arriveAll_frames hread frames fault)

omit [DecidableEq L] in
theorem arriveAll_now (t : Timeline L) (arrivals : List Arrival) :
    (t.arriveAll arrivals).1.now = t.now := by
  induction arrivals generalizing t with
  | nil => rfl
  | cons arrival arrivals ih =>
    refine (ih (t.arrive arrival).1).trans ?_
    rw [arrive_fst]

omit [DecidableEq L] in
theorem Shows.wake_awaits {c : StreamCourse L} (h : t.Shows floor ceiling c) {time : Nat}
    (hdue : t.due = some time) : ((t.woken time).arrive .delayOver).1.Awaits .connecting := by
  have hlive := h.live hdue
  obtain ⟨-, -, -, hstep⟩ := h.onCourse.place.of_due floor (h.due.trans hdue)
  rw [h.stream_open hlive] at hstep
  exact arrive_awaits (t := t.woken time) hlive (congrArg ConnectionLoop.phase hstep) fun _ => rfl

/-- **An attempt of a timeline is a sequence of moves of its course**, whatever it finds. -/
theorem wake_leadsTo {time : Nat} (hdue : t.due = some time) (attempt : Attempt) :
    LeadsTo floor ceiling t (t.wake time attempt) := fun c h =>
  LeadsTo.trans (leadsTo_wake hdue) (leadsTo_arriveAll_arrivals (h.wake_awaits hdue) attempt) c h

/-! ## The clock -/

omit [DecidableEq L] in
theorem runDue_idle {limit : Nat} (h : ∀ time, t.due = some time → limit < time)
    (script : List Attempt) : runDue limit t script = (t, []) := by
  cases hdue : t.due with
  | none => cases script <;> rw [runDue, hdue]
  | some time =>
    have hlater : ¬ time ≤ limit := Nat.not_le.2 (h time hdue)
    cases script <;> rw [runDue, hdue] <;> exact if_neg hlater

omit [DecidableEq L] in
theorem runDue_nil {limit time : Nat} (hdue : t.due = some time) (hle : time ≤ limit) :
    runDue limit t [] = t.wake time .live := by
  rw [runDue, hdue]
  exact if_pos hle

omit [DecidableEq L] in
theorem runDue_cons {limit time : Nat} (hdue : t.due = some time) (hle : time ≤ limit)
    (attempt : Attempt) (script : List Attempt) :
    runDue limit t (attempt :: script) =
      let woken := { t with script := script }.wake time attempt
      ((runDue limit woken.1 script).1, woken.2 ++ (runDue limit woken.1 script).2) := by
  rw [runDue, hdue]
  exact if_pos hle

/-- **A course goes along with all attempts that fall due**, and then none is due any more. -/
theorem Shows.runDue {c : StreamCourse L} (h : t.Shows floor ceiling c) {limit : Nat}
    (hnow : t.now ≤ limit) (script : List Attempt) :
    let r := Timeline.runDue limit t script
    (∃ moves, r.1.Shows floor ceiling (c.run moves) ∧ (c.run moves).calls = c.calls ++ r.2) ∧
      r.1.now ≤ limit ∧ ∀ time, r.1.due = some time → limit < time := by
  induction script generalizing t c with
  | nil =>
    by_cases hidle : ∀ time, t.due = some time → limit < time
    · rw [runDue_idle hidle]
      exact ⟨LeadsTo.refl t c h, hnow, hidle⟩
    · push Not at hidle
      obtain ⟨time, hdue, hle⟩ := hidle
      have hasks := h.wake_awaits hdue
      have hreads : (t.wake time .live).1.Awaits .reading :=
        arrive_awaits hasks.live (by simp only [ConnectionLoop.step, hasks.phase_eq]) fun _ => rfl
      rw [runDue_nil hdue hle]
      refine ⟨wake_leadsTo hdue .live c h, ?_, fun later hlater => ?_⟩
      · rw [Timeline.wake, arriveAll_now]
        exact hle
      · rw [hreads.due] at hlater; cases hlater
  | cons attempt script ih =>
    by_cases hidle : ∀ time, t.due = some time → limit < time
    · rw [runDue_idle hidle]
      exact ⟨LeadsTo.refl t c h, hnow, hidle⟩
    · push Not at hidle
      obtain ⟨time, hdue, hle⟩ := hidle
      -- No course looks at the script.
      have h' : ({ t with script := script } : Timeline L).Shows floor ceiling c :=
        ⟨h.onCourse, h.stream, h.now, h.due, h.attempts, h.ahead, h.silent⟩
      obtain ⟨first, hfirst, hcalls⟩ :=
        wake_leadsTo (t := { t with script := script }) hdue attempt c h'
      have hnow' : ({ t with script := script }.wake time attempt).1.now ≤ limit := by
        rw [Timeline.wake, arriveAll_now]
        exact hle
      obtain ⟨⟨more, hmore, hcalls'⟩, hend⟩ := ih hfirst hnow'
      rw [runDue_cons hdue hle]
      refine ⟨⟨first ++ more, ?_, ?_⟩, hend⟩
      · rw [StreamCourse.run_append]
        exact hmore
      · rw [StreamCourse.run_append, hcalls', hcalls, List.append_assoc]

/-! ## What can be done -/

theorem settle_leadsTo (t : Timeline L) : LeadsTo floor ceiling t t.settle :=
  fun _ h => (h.runDue (Nat.le_refl t.now) t.script).1

theorem advance_leadsTo (t : Timeline L) (milliseconds : Nat) :
    LeadsTo floor ceiling t (t.advance milliseconds) := by
  intro c h
  obtain ⟨⟨moves, hr, hcalls⟩, hnow, hlater⟩ :=
    h.runDue (Nat.le_add_right t.now milliseconds) t.script
  -- What is left of the time passes with nothing that is due.
  generalize hrun : runDue (t.now + milliseconds) t t.script = r at hr hcalls hnow hlater
  have hadvance : t.advance milliseconds = ({ r.1 with now := t.now + milliseconds }, r.2) := by
    rw [advance, hrun]
  have hpass : (c.run moves).now + (t.now + milliseconds - r.1.now) = t.now + milliseconds := by
    rw [hr.now]
    exact Nat.add_sub_cancel' hnow
  have hlast : (c.run moves).next (.passed (t.now + milliseconds - r.1.now)) =
      { c.run moves with now := t.now + milliseconds } := by
    rw [StreamCourse.next_passed_idle, hpass]
    intro time hdue
    rw [hpass]
    exact hlater time (hr.due.symm.trans hdue)
  refine ⟨moves ++ [.passed (t.now + milliseconds - r.1.now)], ?_, ?_⟩
  · rw [StreamCourse.run_concat, hadvance]
    have hnext := StreamCourse.next_onCourse hr.onCourse
      (.passed (t.now + milliseconds - r.1.now))
    rw [hlast] at hnext ⊢
    exact ⟨hnext, hr.stream, rfl, hr.due, hr.attempts, fun time hdue => (hlater time hdue).le,
      hr.silent⟩
  · rw [StreamCourse.run_concat, hadvance, hlast]
    exact hcalls

omit [DecidableEq L] in
theorem Shows.live_awaits {c : StreamCourse L} (h : t.Shows floor ceiling c)
    (hlive : t.stream.isLive = true) : t.Awaits .reading := by
  rw [EventStream.isLive, Bool.and_eq_true, beq_iff_eq, Bool.not_eq_true'] at hlive
  obtain ⟨hphase, hopen⟩ := hlive
  refine ⟨hphase, ?_, hopen⟩
  rw [← h.stream_open hopen] at hphase
  rw [← h.due]
  cases h.onCourse.place with
  | unbegun log phase due => rw [hphase] at phase; cases phase
  | begun time last past due live => rw [due, hphase]; rfl
  | ended phase due told => exact due

theorem push_leadsTo (t : Timeline L) (frame : Frame) :
    LeadsTo floor ceiling t (t.push frame) := by
  intro c h
  rw [push]
  split
  · next hlive =>
    have hreads := h.live_awaits hlive
    exact leadsTo_arrive hreads.due hreads.live (.frame frame) nofun c h
  · exact LeadsTo.refl t c h

theorem breakOff_leadsTo (t : Timeline L) (fault : StreamFault) :
    LeadsTo floor ceiling t (t.breakOff fault) := by
  intro c h
  rw [breakOff]
  split
  · next hlive =>
    have hreads := h.live_awaits hlive
    have hdropped : LeadsTo floor ceiling t (t.arrive (.dropped fault)) :=
      leadsTo_arrive hreads.due hreads.live _ nofun
    exact LeadsTo.trans hdropped (settle_leadsTo _) c h
  · exact LeadsTo.refl t c h

theorem close_leadsTo (t : Timeline L) : LeadsTo floor ceiling t (t.close, []) := by
  intro c h
  -- The loop of the course ends at once, as nothing can tell it from one that ends later.
  have hstream : (c.run [.closed, .aborted]).stream = t.stream.close.stop := by
    have hclosed : (c.run [.closed, .aborted]).stream =
        ⟨c.stream.registry.clear, .closed, ⟨.stopped, c.stream.loop.backoff⟩, true⟩ :=
      congrArg (fun state => EventStream.mk c.stream.registry.clear state
        ⟨.stopped, c.stream.loop.backoff⟩ true) (StreamState.apply_shutdown c.stream.state)
    rw [hclosed, EventStream.stop, StreamState.apply_shutdown, h.stream]
    split <;> rfl
  refine ⟨[.closed, .aborted], ⟨StreamCourse.run_onCourse h.onCourse _, hstream, h.now, rfl,
    h.attempts, nofun, fun _ => rfl⟩, (List.append_nil _).symm⟩

theorem change_leadsTo (t : Timeline L) (change : RegistryMove L) :
    LeadsTo floor ceiling t ({ t with stream := t.stream.change change }, []) := by
  refine .of_next (.changed change) fun c h hnext => ?_
  rw [EventStream.change_eq]
  refine ⟨⟨hnext, ?_, h.now, h.due, h.attempts, h.ahead, h.silent⟩, (List.append_nil _).symm⟩
  show c.stream.change change = _
  rw [EventStream.change_eq, h.stream]
  dsimp only
  split <;> rfl

/-- **A course goes along with whatever is done on a timeline.** -/
theorem run_leadsTo (t : Timeline L) (moves : List (TimelineMove L)) :
    LeadsTo floor ceiling t (t.run moves) := by
  induction moves generalizing t with
  | nil => exact .refl t
  | cons move moves ih =>
    refine LeadsTo.trans ?_ (ih (t.next move).1)
    cases move with
    | settled => exact settle_leadsTo t
    | advanced milliseconds => exact advance_leadsTo t milliseconds
    | pushed frame => exact push_leadsTo t frame
    | brokenOff fault => exact breakOff_leadsTo t fault
    | closed => exact close_leadsTo t
    | changed change => exact change_leadsTo t change

omit [DecidableEq L] in
theorem start_shows (floor ceiling : Duration) (script : List Attempt) :
    (start (.between floor ceiling) script : Timeline L).Shows floor ceiling
      (.start (.between floor ceiling)) :=
  ⟨StreamCourse.start_onCourse floor ceiling, rfl, rfl, rfl, rfl, fun _ _ => Nat.zero_le _, nofun⟩

/-- **Whatever is done on a timeline, it is a course of its stream**, with the same attempts and
    the same calls. -/
theorem exists_course (floor ceiling : Duration) (script : List Attempt)
    (moves : List (TimelineMove L)) :
    let r := (start (.between floor ceiling) script).run moves
    ∃ courseMoves, let c := (StreamCourse.start (.between floor ceiling)).run courseMoves
      r.1.Shows floor ceiling c ∧ c.calls = r.2 := by
  intro r
  exact run_leadsTo _ moves _ (start_shows floor ceiling script)

end Timeline
end LightningLottery
