/-
  How long the delays of a backoff are.

  * `Backoff.delay`: the delay that follows so many failures in a row.
  * `Backoff.After`: a backoff between two bounds, after so many failures in a row.
  * `After.onFailure`, `After.reset`: what a failure and an open connection make of it.
  * `Backoff.run_after`: a backoff after any failures and open connections.
  * `Backoff.current_run_mem`: its delay is between the bounds.
-/
import Mathlib.Algebra.Ring.Nat
import Mathlib.Data.List.Induction
import Mathlib.Order.MinMax
import LightningLottery.Stream.Backoff

namespace LightningLottery

namespace Duration

theorem le_limit (d : Duration) : d.nanoseconds ≤ limit - 1 := Nat.le_pred_of_lt d.lt_limit

theorem nanoseconds_ofNanoseconds {n : Nat} (h : n ≤ limit - 1) :
    (ofNanoseconds n).nanoseconds = n := Nat.min_eq_left h

theorem nanoseconds_longer (a b : Duration) :
    (a.longer b).nanoseconds = max a.nanoseconds b.nanoseconds := by
  unfold longer
  split <;> omega

theorem nanoseconds_shorter (a b : Duration) :
    (a.shorter b).nanoseconds = min a.nanoseconds b.nanoseconds := by
  unfold shorter
  split <;> omega

theorem nanoseconds_double (d : Duration) :
    d.double.nanoseconds = min (d.nanoseconds * 2) (limit - 1) := rfl

theorem eq_of_nanoseconds {a b : Duration} (h : a.nanoseconds = b.nanoseconds) : a = b := by
  cases a
  cases b
  cases h
  rfl

theorem ceilMilliseconds_mul {d : Duration} (h : perMillisecond ∣ d.nanoseconds) :
    d.ceilMilliseconds * perMillisecond = d.nanoseconds := by
  obtain ⟨n, hn⟩ := h
  unfold ceilMilliseconds
  rw [hn]
  unfold perMillisecond
  omega

end Duration

namespace Backoff

/-- The delay that follows so many failures in a row: the floor, doubled each time, and at most the
    ceiling, which is not below the floor. -/
def delay (floor ceiling : Duration) (failures : Nat) : Duration :=
  .ofNanoseconds (min (max ceiling.nanoseconds floor.nanoseconds)
    (floor.nanoseconds * 2 ^ failures))

theorem nanoseconds_delay (floor ceiling : Duration) (failures : Nat) :
    (delay floor ceiling failures).nanoseconds =
      min (max ceiling.nanoseconds floor.nanoseconds) (floor.nanoseconds * 2 ^ failures) := by
  have hmax : max ceiling.nanoseconds floor.nanoseconds ≤ Duration.limit - 1 :=
    Nat.max_le.2 ⟨ceiling.le_limit, floor.le_limit⟩
  exact Duration.nanoseconds_ofNanoseconds (Nat.le_trans (Nat.min_le_left _ _) hmax)

theorem delay_zero (floor ceiling : Duration) : delay floor ceiling 0 = floor := by
  refine Duration.eq_of_nanoseconds ?_
  rw [nanoseconds_delay, Nat.pow_zero, Nat.mul_one]
  omega

theorem dvd_delay {n : Nat} {floor ceiling : Duration} (hf : n ∣ floor.nanoseconds)
    (hc : n ∣ ceiling.nanoseconds) (failures : Nat) :
    n ∣ (delay floor ceiling failures).nanoseconds := by
  rw [nanoseconds_delay]
  rcases min_choice (max ceiling.nanoseconds floor.nanoseconds)
    (floor.nanoseconds * 2 ^ failures) with h | h
  · rw [h]
    rcases max_choice ceiling.nanoseconds floor.nanoseconds with h' | h'
    · rwa [h']
    · rwa [h']
  · rw [h]
    exact Nat.dvd_mul_right_of_dvd hf _

/-- The next delay is twice this one, or the ceiling. The span that no doubling exceeds is above
    every ceiling, so nothing is lost there. -/
theorem nanoseconds_current_onFailure (b : Backoff) :
    b.onFailure.2.current.nanoseconds =
      min (b.current.nanoseconds * 2) b.ceiling.nanoseconds := by
  have hceiling := b.ceiling.le_limit
  show (b.current.double.shorter b.ceiling).nanoseconds = _
  rw [Duration.nanoseconds_shorter, Duration.nanoseconds_double]
  omega

/-- A backoff between two bounds, after so many failures in a row. -/
structure After (floor ceiling : Duration) (failures : Nat) (b : Backoff) : Prop where
  floor_eq : b.floor = floor
  ceiling_eq : b.ceiling = ceiling.longer floor
  current_eq : b.current = delay floor ceiling failures

theorem between_after (floor ceiling : Duration) : (between floor ceiling).After floor ceiling 0 :=
  ⟨rfl, rfl, (delay_zero floor ceiling).symm⟩

namespace After

variable {floor ceiling : Duration} {failures : Nat} {b : Backoff}

theorem reset (h : b.After floor ceiling failures) : b.reset.After floor ceiling 0 :=
  ⟨h.floor_eq, h.ceiling_eq, h.floor_eq.trans (delay_zero floor ceiling).symm⟩

/-- **A failure waits for the delay that is due, and doubles the next one** up to the ceiling. -/
theorem onFailure (h : b.After floor ceiling failures) :
    b.onFailure.1 = delay floor ceiling failures ∧
      b.onFailure.2.After floor ceiling (failures + 1) := by
  refine ⟨h.current_eq, h.floor_eq, h.ceiling_eq, Duration.eq_of_nanoseconds ?_⟩
  rw [nanoseconds_current_onFailure, h.current_eq, h.ceiling_eq, Duration.nanoseconds_longer,
    nanoseconds_delay, nanoseconds_delay, Nat.pow_succ, ← Nat.mul_assoc]
  generalize floor.nanoseconds * 2 ^ failures = doubled
  omega

end After

theorem floor_le_delay (floor ceiling : Duration) (failures : Nat) :
    floor.nanoseconds ≤ (delay floor ceiling failures).nanoseconds := by
  rw [nanoseconds_delay]
  exact Nat.le_min.2 ⟨Nat.le_max_right _ _, Nat.le_mul_of_pos_right _ (Nat.two_pow_pos _)⟩

/-- No delay is above the ceiling, unless that is below the floor. -/
theorem delay_le_max (floor ceiling : Duration) (failures : Nat) :
    (delay floor ceiling failures).nanoseconds ≤ max ceiling.nanoseconds floor.nanoseconds := by
  rw [nanoseconds_delay]
  exact Nat.min_le_left _ _

end Backoff

/-! ## Runs -/

/-- What happens to a backoff: a failure, or a connection that opens. -/
inductive BackoffMove where
  | failed
  | opened
  deriving DecidableEq

/-- The failures since a connection last opened, or since the start. -/
def failuresInRow (moves : List BackoffMove) : Nat :=
  (moves.reverse.takeWhile (· ≠ .opened)).length

theorem failuresInRow_failed (moves : List BackoffMove) :
    failuresInRow (moves ++ [.failed]) = failuresInRow moves + 1 := by
  simp [failuresInRow]

theorem failuresInRow_opened (moves : List BackoffMove) :
    failuresInRow (moves ++ [.opened]) = 0 := by
  simp [failuresInRow]

namespace Backoff

/-- What a move makes of a backoff. -/
def next (b : Backoff) : BackoffMove → Backoff
  | .failed => b.onFailure.2
  | .opened => b.reset

/-- What many moves make of it. -/
def run (b : Backoff) (moves : List BackoffMove) : Backoff := moves.foldl next b

theorem run_concat (b : Backoff) (moves : List BackoffMove) (move : BackoffMove) :
    b.run (moves ++ [move]) = (b.run moves).next move := List.foldl_append

/-- **A backoff knows the failures in a row**, whatever happened before. -/
theorem run_after (floor ceiling : Duration) (moves : List BackoffMove) :
    ((between floor ceiling).run moves).After floor ceiling (failuresInRow moves) := by
  induction moves using List.reverseRecOn with
  | nil => exact between_after floor ceiling
  | append_singleton moves move ih =>
    rw [run_concat]
    cases move with
    | failed =>
      rw [failuresInRow_failed]
      exact ih.onFailure.2
    | opened =>
      rw [failuresInRow_opened]
      exact ih.reset

/-- **Between bounds in order, the delay that is due always is.** -/
theorem current_run_mem {floor ceiling : Duration} (h : floor.nanoseconds ≤ ceiling.nanoseconds)
    (moves : List BackoffMove) :
    floor.nanoseconds ≤ ((between floor ceiling).run moves).current.nanoseconds ∧
      ((between floor ceiling).run moves).current.nanoseconds ≤ ceiling.nanoseconds := by
  rw [(run_after floor ceiling moves).current_eq]
  exact ⟨floor_le_delay .., (delay_le_max ..).trans_eq (Nat.max_eq_left h)⟩

end Backoff
end LightningLottery
